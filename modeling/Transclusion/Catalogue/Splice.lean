import Transclusion.Catalogue.Basic
import Transclusion.Markup

namespace Transclusion.Catalogue

/-! Putting the entries in place of the directives of a page. -/

def contentOf (flags : List Text) (catalogue : Catalogue) (text : Text) : Except Failure Text := do
  let directive ← parse flags text
  match Dict.find? catalogue directive.key with
  | some entry => return entry.content
  | none => throw (.unregistered directive.key)

/-- What is put in place is not looked at again. -/
def splice (flags : List Text) (catalogue : Catalogue) (body : Text) : Except Failure Text :=
  Markup.replace (contentOf flags catalogue) body

end Transclusion.Catalogue
