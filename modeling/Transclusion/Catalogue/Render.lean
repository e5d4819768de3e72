import Transclusion.Catalogue.Basic

namespace Transclusion.Catalogue

/-! Rendering the entries, each against its own data and those that all share. -/

/-- The shared data are laid over the entry's own, and stay there even if rendering fails. -/
def renderEntry (render : Text → Data → Except TemplateError Text) (shared : Data)
    (entry : Partial) : Except Failure Unit × Partial :=
  let bound := { entry with data := entry.data.map (Dict.overlay · shared) }
  match render entry.content (entry.context shared) with
  | .ok content => (.ok (), { bound with content })
  | .error error => (.error (.template error), bound)

def render (render : Text → Data → Except TemplateError Text) (shared : Data)
    (catalogue : Catalogue) : Except Failure Unit × Catalogue :=
  Dict.sweep (renderEntry render shared) catalogue

end Transclusion.Catalogue
