import Transclusion.Settings.Basic
import Transclusion.Yaml.Decode

namespace Transclusion

/-! Settings as they are written in a file. -/

namespace Settings

open Yaml

def fieldNames : List Text :=
  ["root_dir", "data_dir", "template_ext", "datafile_ext", "exclude", "static_data_types",
    "page_scoped_type", "default_channel", "channel_param", "exclude_flags", "max_depth",
    "defaults_file", "pages_dir", "autoescape", "max_body_bytes"].map String.toList

/-- Roots are given as a path or as a list of paths. What stands for a number or the like is not
taken for a path. -/
def decodeRoots (node : Node) : Decode (List Text) := do
  let path : Json → Decode Text
    | .string path => return path
    | _ => failure
  match ← Decode.json Decode.nestingLimit node with
  | .string path => return [path]
  | .array items => items.mapM path
  | _ => failure

def decodeField (settings : Settings) (name : Text) (node : Node) : Decode Settings := do
  match String.ofList name with
  | "root_dir" => return { settings with roots := ← decodeRoots node }
  | "data_dir" => return { settings with dataDir := ← Decode.text node }
  | "template_ext" => return { settings with templateExt := ← Decode.text node }
  | "datafile_ext" => return { settings with dataExt := ← Decode.text node }
  | "exclude" => return { settings with exclude := ← Decode.option Decode.text node }
  | "static_data_types" => return { settings with staticTypes := ← Decode.dict Decode.text node }
  | "page_scoped_type" =>
      return { settings with pageScopedType := ← Decode.option Decode.text node }
  | "default_channel" => return { settings with defaultChannel := ← Decode.text node }
  | "channel_param" => return { settings with channelParam := ← Decode.text node }
  | "exclude_flags" => return { settings with flags := ← Decode.list Decode.text node }
  | "max_depth" => return { settings with maxDepth := ← Decode.count node }
  | "defaults_file" => return { settings with defaultsFile := ← Decode.option Decode.text node }
  | "pages_dir" => return { settings with pagesDir := ← Decode.option Decode.text node }
  | "autoescape" => return { settings with autoescape := ← Decode.bool node }
  | "max_body_bytes" => return { settings with maxBodyBytes := ← Decode.count node }
  | _ => return settings

def decode (node : Node) : Decode Settings := do
  let fields ← Decode.fields fieldNames node
  fields.foldlM (fun settings field => decodeField settings field.1 field.2) {}

def readFile {α : Type} (format : Format) (decode : Node → Decode α) (files : FileTree)
    (path : Text) : Except SettingsError α :=
  if !files.isPresent path then .error (.missing path)
  else
    match files.readText path with
    | .error fault => .error (.unreadable path fault)
    | .ok text => (Decode.run? decode text).elim (.error (.malformed path format text)) .ok

/-- Reads the settings in a file, whose paths begin where the file is, and checks them. -/
def load (files : FileTree) (path : Text) : Except SettingsError Settings := do
  let settings ← readFile .settings decode files path
  let settings := settings.anchor ((Path.parent? path).getD ['.'])
  let _ ← settings.check
  return settings

end Settings

end Transclusion
