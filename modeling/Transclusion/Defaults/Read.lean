import Transclusion.Defaults.Basic
import Transclusion.Settings.Read

namespace Transclusion.Defaults

open Yaml

/-! Shared data as they are written in a file. -/

def fieldNames : List Text :=
  ["default_channel", "channels"].map String.toList

/-- The lists and mappings that are around the data themselves. -/
def outerNesting : Nat := 3

def readField (fallback : Option Text) (channels : List (Text × Data)) (name : Text)
    (node : Node) : Decode (Option Text × List (Text × Data)) := do
  match String.ofList name with
  | "default_channel" => return (← Decode.option Decode.text node, channels)
  | "channels" =>
      let data := Decode.json (Decode.nestingLimit - outerNesting)
      return (fallback, ← Decode.entries (Decode.dict data) node)
  | _ => return (fallback, channels)

def listing (node : Node) : Decode (Option Text × List (Text × Data)) := do
  let fields ← Decode.fields fieldNames node
  fields.foldlM (fun (fallback, channels) field => readField fallback channels field.1 field.2)
    (none, [])

/-- Channels are brought together in the order of their names. -/
def ofListing (listed : Option Text × List (Text × Data)) : Defaults :=
  ofChannels listed.1 (Dict.ofList listed.2)

def decode (node : Node) : Decode Defaults :=
  ofListing <$> listing node

def load (files : FileTree) (path : Text) : Except SettingsError Defaults :=
  Settings.readFile .sharedData decode files path

end Transclusion.Defaults
