import Transclusion.Directive.Basic
import Transclusion.Site

namespace Transclusion

/-! What the directives of a page stand for, by the keys of the directives. -/

structure Partial where
  source : Option Source
  content : Text
  /-- No data at all is not the same as data without members. -/
  data : Option Data

abbrev Catalogue := Dict Partial

/-- What a template is rendered against: its own data, over which the shared data are laid. -/
def Partial.context (shared : Data) (entry : Partial) : Data :=
  match entry.data with
  | some data => Dict.overlay data shared
  | none => shared

namespace Catalogue

def parse (flags : List Text) (text : Text) : Except Failure Directive :=
  match Directive.parse? flags text with
  | some directive => .ok directive
  | none => .error (.malformed text)

end Catalogue

end Transclusion
