import Transclusion.Rename
import Transclusion.Settings.Basic
import Transclusion.Text.Percent

namespace Transclusion

/-! What is asked for: a page, on a channel, with further parameters. -/

structure Request where
  channel : Channel
  page : Text
  params : Dict Text

namespace Request

def pageOf (path : Text) : Text :=
  Text.trim (· == '/') path

def spaced (text : Text) : Text :=
  text.map fun c => if c = '+' then ' ' else c

/-- Reads what a name or a value in a query stands for. Escapes that make up no text are left as
they are. -/
def decode (text : Text) : Text :=
  (Text.percentDecode? (spaced text)).getD (spaced text)

/-- The parameter that a part of a query gives, if it has exactly one equals sign, with a name ahead
of it. -/
def param? (part : Text) : Option (Text × Text) :=
  match Text.split '=' part with
  | [name, value] => if name.isEmpty then none else some (decode name, decode value)
  | _ => none

def paramsOf (query : Text) : Dict Text :=
  Dict.ofList <| (Text.split '&' query).filterMap param?

def channelOf (params : Dict Text) (param usual : Text) : Channel :=
  match (Dict.find? params param).map Text.trimBlank with
  | some (c :: name) => .ofText (c :: name)
  | _ => .ofText usual

def ofUri (settings : Settings) (path : Text) (query : Option Text) : Request :=
  let params := (query.map paramsOf).getD []
  { channel := channelOf params settings.channelParam settings.defaultChannel
    page := pageOf path
    params }

def oldParam : Text := "oldMapper".toList

def newParam : Text := "newMapper".toList

def rename? (request : Request) : Option Rename := do
  let old ← Dict.find? request.params oldParam
  let new ← Dict.find? request.params newParam
  return { old, new }

/-- Whether an address is left alone: those of files, which have a dot, and those that the pattern
is for. -/
def isExcluded (pattern : Option Pattern) (url : Text) : Bool :=
  url.contains '.' || pattern.any (·.occursIn url)

end Request

end Transclusion
