import Transclusion.Catalogue.Basic
import Transclusion.Markup

namespace Transclusion.Catalogue

/-! Gathering what the directives of a page ask for. -/

/-- Of two faults, that of the data is found first. -/
def load (site : Site) (files : FileTree) (channel : Channel) (directive : Directive) :
    Except Failure Partial := do
  let data ← site.loadData files channel directive.dataRef
  let loaded ← site.loadTemplate files channel directive.templateRef
  return ⟨loaded.source, loaded.content, data⟩

def isDue (catalogue : Catalogue) (directive : Directive) : Bool :=
  !Dict.contains catalogue directive.key || directive.isFlagged

def gatherEach (flags : List Text) (load : Directive → Except Failure Partial) :
    List Text → Catalogue → Except Failure Nat × Catalogue
  | [], catalogue => (.ok 0, catalogue)
  | text :: texts, catalogue =>
      match parse flags text with
      | .error failure => (.error failure, catalogue)
      | .ok directive =>
          if isDue catalogue directive then
            match load directive with
            | .error failure => (.error failure, catalogue)
            | .ok entry =>
                let (outcome, catalogue) :=
                  gatherEach flags load texts (Dict.insert catalogue directive.key entry)
                (outcome.map (· + 1), catalogue)
          else gatherEach flags load texts catalogue

def gather (flags : List Text) (load : Directive → Except Failure Partial) (body : Text)
    (catalogue : Catalogue) : Except Failure Nat × Catalogue :=
  gatherEach flags load (Markup.directives body) catalogue

end Transclusion.Catalogue
