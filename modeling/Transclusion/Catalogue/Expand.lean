import Transclusion.Catalogue.Basic
import Transclusion.Markup

namespace Transclusion.Catalogue

/-! Templates may include others. Their texts are put in place first, before anything is rendered,
so that an included text is rendered against the data of the template around it. -/

structure Nesting where
  flags : List Text
  load : Text → Except Failure Loaded
  maxDepth : Nat

def isSameFile (first second : Source) : Bool :=
  Path.same first.full second.full

/-- Whether a file may not be entered from within a chain of files. -/
def Nesting.isBarred (nesting : Nesting) (chain : List Source) (source : Source) : Bool :=
  chain.any (isSameFile · source) || decide (nesting.maxDepth ≤ chain.length)

theorem Nesting.room_lt {nesting : Nesting} {chain : List Source} {source : Source}
    (h : ¬nesting.isBarred chain source = true) :
    nesting.maxDepth - (chain ++ [source]).length < nesting.maxDepth - chain.length := by
  simp only [isBarred, Bool.or_eq_true, decide_eq_true_eq, not_or, Nat.not_le] at h
  simp only [List.length_append, List.length_singleton]
  omega

/-- Puts the text of what it names in place of every directive. The chain holds the files that
have been entered. -/
def Nesting.expand (nesting : Nesting) (chain : List Source) (content : Text) :
    Except Failure Text :=
  Markup.replace (fun text => do
    let directive ← parse nesting.flags text
    let loaded ← nesting.load directive.templateRef
    match loaded.source with
    | none => return []
    | some source =>
        if _ : nesting.isBarred chain source = true then
          throw (.cycle ((chain ++ [source]).map Source.relative))
        else nesting.expand (chain ++ [source]) loaded.content) content
termination_by nesting.maxDepth - chain.length
decreasing_by exact Nesting.room_lt ‹_›

def expandEntry (nesting : Nesting) (entry : Partial) : Except Failure Unit × Partial :=
  match nesting.expand entry.source.toList entry.content with
  | .ok content => (.ok (), { entry with content })
  | .error failure => (.error failure, entry)

def expand (nesting : Nesting) (catalogue : Catalogue) : Except Failure Unit × Catalogue :=
  Dict.sweep (expandEntry nesting) catalogue

end Transclusion.Catalogue
