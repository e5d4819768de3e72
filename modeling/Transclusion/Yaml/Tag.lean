import Transclusion.Text.Percent
import Transclusion.Yaml.Cursor

namespace Transclusion.Yaml

/-! Tags, which tell what a node is, and the directives that introduce handles for them. -/

/-- A tag as it is written. A handle stands for the beginning of the tag. -/
structure WrittenTag where
  handle : Text
  suffix : Text
  deriving DecidableEq

/-- The characters of a tag besides those of names. Some of them a short tag has not. -/
def isTagChar (long : Bool) (c : Char) : Bool :=
  isNameChar c || [';', '/', '?', ':', '@', '&', '=', '+', '$', '.', '%', '!', '~', '*', '\x27',
    '(', ')'].contains c || (long && [',', '[', ']'].contains c)

def handleOf (text : Text) : Text :=
  match text with
  | '!' :: rest =>
      let name := rest.takeWhile isNameChar
      match rest.dropWhile isNameChar with
      | '!' :: _ => '!' :: name ++ ['!']
      | _ => '!' :: name
  | _ => []

def readTagText? (long : Bool) (cursor : Cursor) : Option (Text × Cursor) :=
  let written := cursor.rest.takeWhile (isTagChar long)
  let rec plain (text : Text) : Bool :=
    match text with
    | '%' :: a :: b :: rest =>
        (Text.hexValue? a).isSome && (Text.hexValue? b).isSome && plain rest
    | '%' :: _ => false
    | _ :: rest => plain rest
    | [] => true
  if plain written then (Text.percentDecode? written).map (·, cursor.skip written.length) else none

def readTag? (flow : Bool) (cursor : Cursor) : Option (WrittenTag × Cursor) := do
  let (tag, after) ←
    match cursor.rest with
    | '!' :: '<' :: _ => do
        let (text, after) ← readTagText? true (cursor.skip 2)
        if text.isEmpty then none
        else
          match after.rest with
          | '>' :: _ => some (WrittenTag.mk [] text, after.skip 1)
          | _ => none
    | _ => do
        let handle := handleOf cursor.rest
        let (text, after) ← readTagText? false (cursor.skip handle.length)
        if handle.length > 1 && handle.getLast? == some '!' then
          if text.isEmpty then none else some (⟨handle, text⟩, after)
        else
          match handle.drop 1 ++ text with
          | [] => some (⟨[], ['!']⟩, after)
          | suffix => some (⟨['!'], suffix⟩, after)
  if endsWord after.rest || (flow && after.rest.head? == some ',') then some (tag, after) else none

abbrev Handles := List (Text × Text)

def usualHandles : Handles := [
  (['!'], ['!']), (['!', '!'], "tag:yaml.org,2002:".toList)]

def WrittenTag.full? (handles : Handles) (tag : WrittenTag) : Option Text :=
  if tag.handle.isEmpty then some tag.suffix
  else (handles.lookup tag.handle).map (· ++ tag.suffix)

inductive DocumentDirective where
  | version (major minor : Nat)
  | handle (name stands : Text)

def versionDigits : Nat := 9

def readVersionNumber? (cursor : Cursor) : Option (Nat × Cursor) :=
  let digits := cursor.rest.takeWhile Char.isDigit
  if digits.isEmpty || digits.length > versionDigits then none
  else some (Nat.ofDigitChars 10 digits 0, cursor.skip digits.length)

def readDirective? (cursor : Cursor) : Option (DocumentDirective × Cursor) := do
  let name := cursor.rest.takeWhile isNameChar
  let cursor := cursor.skip name.length
  if !endsWord cursor.rest then none
  let (directive, cursor) ←
    if name = "YAML".toList then do
      let (major, cursor) ← readVersionNumber? (cursor.skipWhile isBlank)
      if cursor.rest.head? != some '.' then none
      let (minor, cursor) ← readVersionNumber? (cursor.skip 1)
      some (DocumentDirective.version major minor, cursor)
    else if name = "TAG".toList then do
      let cursor := cursor.skipWhile isBlank
      let handle := handleOf cursor.rest
      let cursor := cursor.skip handle.length
      if handle != ['!'] && (handle.length < 2 || handle.getLast? != some '!') then none
      if !cursor.rest.head?.any isBlank then none
      let (stands, cursor) ← readTagText? true (cursor.skipWhile isBlank)
      if stands.isEmpty || !endsWord cursor.rest then none
      some (DocumentDirective.handle handle stands, cursor)
    else none
  some (directive, ← cursor.endLine?)

end Transclusion.Yaml
