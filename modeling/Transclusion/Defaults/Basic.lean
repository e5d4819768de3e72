import Transclusion.Channel
import Transclusion.Json.Basic
import Transclusion.Settings.Basic

namespace Transclusion

/-! Data that all templates share, by channel and type. -/

structure Defaults where
  /-- The channel whose data stand in for those that another has not. -/
  fallback : Option Text
  channels : Dict Data

namespace Defaults

def empty : Defaults := ⟨none, []⟩

def extend (channels : Dict Data) (channel : Text) (types : Data) : Dict Data :=
  let name := (Channel.ofText channel).name
  Dict.insert channels name (Dict.overlay ((Dict.find? channels name).getD []) types)

/-- Brings together channels whose names differ in case only, those later in order over those
before. -/
def ofChannels (fallback : Option Text) (channels : Dict Data) : Defaults where
  fallback := fallback
  channels := channels.foldl (fun gathered entry => extend gathered entry.1 entry.2) []

def insert (defaults : Defaults) (channel type : Text) (value : Json) : Defaults :=
  { defaults with channels := extend defaults.channels channel [(type, value)] }

def direct? (defaults : Defaults) (channel : Channel) (type : Text) : Option Json :=
  (Dict.find? defaults.channels channel.name).bind (Dict.find? · type)

def find? (defaults : Defaults) (channel : Channel) (type : Text) : Option Json :=
  (defaults.direct? channel type).or <|
    (defaults.fallback.map Channel.ofText).bind (defaults.direct? · type)

/-- What is shared on a page for a type of data. One that differs from page to page holds the data
of each under its path. -/
def share? (defaults : Defaults) (settings : Settings) (channel : Channel) (page type : Text) :
    Option Json := do
  let value ← defaults.find? channel type
  if settings.pageScopedKey? = some type then
    match ← value.member? page with
    | .null => none
    | value => return value
  else return value

def shared (defaults : Defaults) (settings : Settings) (channel : Channel) (page : Text) : Data :=
  Dict.ofList <| settings.staticTypes.filterMap fun entry =>
    (defaults.share? settings channel page entry.2).map (entry.2, ·)

end Defaults

end Transclusion
