import Transclusion.Template.Tag

namespace Transclusion.Template

/-! Lines that hold nothing but one tag. Unless the tag prints a value, such a line goes with it. -/

def TagKind.standsAlone : TagKind → Bool
  | .value _ _ => false
  | _ => true

def isLineBlank (c : Char) : Bool :=
  c == ' ' || c == '\t'

def lastLine (text : Text) : Text :=
  (text.reverse.takeWhile (· != '\n')).reverse

def dropLastLine (text : Text) : Text :=
  (text.reverse.dropWhile (· != '\n')).reverse

def firstLine (text : Text) : Text :=
  text.takeWhile (· != '\n')

def dropFirstLine (text : Text) : Text :=
  (text.dropWhile (· != '\n')).drop 1

/-- Whether only blanks stand before the end of a text on its line. The text begins a line itself
or goes on with the line of a tag. -/
def blankBefore (beginsLine : Bool) (text : Text) : Bool :=
  (lastLine text).all isLineBlank && (beginsLine || text.contains '\n')

/-- Whether only blanks stand behind the beginning of a text on its line, where a carriage return
may end the line. The text ends the template or comes before a tag. -/
def blankBehind (endsTemplate : Bool) (text : Text) : Bool :=
  ((Text.dropLast? '\x0d' (firstLine text)).getD (firstLine text)).all isLineBlank &&
    (endsTemplate || text.contains '\n')

/-- Takes the lines out that hold nothing but one tag, and leaves the tags in. -/
def tidyFrom (beginsLine : Bool) (lead : Text) : List (Tag × Text) → Cut
  | [] => ⟨lead, []⟩
  | (tag, behind) :: tags =>
      if tag.kind.standsAlone && blankBefore beginsLine lead && blankBehind tags.isEmpty behind then
        let tidied := tidyFrom true (dropFirstLine behind) tags
        ⟨dropLastLine lead, (tag, tidied.lead) :: tidied.tags⟩
      else
        let tidied := tidyFrom false behind tags
        ⟨lead, (tag, tidied.lead) :: tidied.tags⟩

def Cut.tidy (cut : Cut) : Cut :=
  tidyFrom true cut.lead cut.tags

end Transclusion.Template
