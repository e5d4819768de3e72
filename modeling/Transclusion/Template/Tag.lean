import Transclusion.Text.Blank

namespace Transclusion.Template

open Text

/-! Templates as text with tags in it. A tag stands in two braces, and a tag whose value is not to
be escaped may stand in three. -/

inductive TagKind where
  | value (name : Text) (escaped : Bool)
  | enter (name : Text) (inverted : Bool)
  | leave (name : Text)
  | note
  | inclusion
  | delimiters
  deriving DecidableEq

structure Tag where
  text : Text
  kind : TagKind
  deriving DecidableEq

def classify (inner : Text) : TagKind :=
  match trimBlank inner with
  | '!' :: _ => .note
  | '>' :: _ => .inclusion
  | '#' :: name => .enter (trimBlank name) false
  | '^' :: name => .enter (trimBlank name) true
  | '/' :: name => .leave (trimBlank name)
  | '&' :: name => .value (trimBlank name) false
  | '=' :: _ => .delimiters
  | name => .value name true

/-- Reads a tag off the front of a text. Three braces are closed by three braces only. -/
def Tag.read? : Text → Option (Tag × Text)
  | '{' :: '{' :: '{' :: behind =>
      (breakAt? ['}', '}', '}'] behind).map fun (inner, rest) =>
        (⟨['{', '{', '{'] ++ inner ++ ['}', '}', '}'], .value (trimBlank inner) false⟩, rest)
  | '{' :: '{' :: behind =>
      (breakAt? ['}', '}'] behind).map fun (inner, rest) =>
        (⟨['{', '{'] ++ inner ++ ['}', '}'], classify inner⟩, rest)
  | _ => none

structure Cut where
  lead : Text
  tags : List (Tag × Text)
  deriving DecidableEq

def tagMark : Text := ['{', '{']

/-- Cuts a text at its tags, the first `skip` characters being those of a tag that has been taken
already. From a tag on that is never closed all is text. -/
def cutFrom (skip : Nat) : Text → Cut
  | [] => ⟨[], []⟩
  | c :: rest =>
      match skip with
      | skip + 1 => cutFrom skip rest
      | 0 =>
          if tagMark.isPrefixOf (c :: rest) then
            match Tag.read? (c :: rest) with
            | some (tag, _) =>
                let behind := cutFrom (tag.text.length - 1) rest
                ⟨[], (tag, behind.lead) :: behind.tags⟩
            | none => ⟨c :: rest, []⟩
          else
            let behind := cutFrom 0 rest
            ⟨c :: behind.lead, behind.tags⟩

def cut (text : Text) : Cut :=
  cutFrom 0 text

def Cut.text (cut : Cut) : Text :=
  cut.lead ++ cut.tags.flatMap fun (tag, behind) => tag.text ++ behind

end Transclusion.Template
