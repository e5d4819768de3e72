import Mathlib.Data.List.Chain
import Mathlib.Logic.Relation
import Transclusion.Catalogue.Expand
import Transclusion.Proofs.Markup.Filling
import Transclusion.Proofs.Site.Holding

namespace Transclusion.Site

/-! Which files include which, and the text that a template comes to once all that it includes is
in place. -/

open Relation

variable {site : Site} {files : FileTree} {channel : Channel} {flags : List Text}
  {maxDepth : Nat} {root outer inner : Text}

/-- A directive in the text of one file leads to another file. Files are told apart by their
paths. -/
def Includes (site : Site) (files : FileTree) (channel : Channel) (flags : List Text)
    (outer inner : Text) : Prop :=
  ∃ content, files.readText outer = .ok content ∧
    ∃ word ∈ Markup.directives content, ∃ directive, Directive.parse? flags word = some directive ∧
      ∃ source, site.locate files channel directive.templateRef = .ok (.found source) ∧
        source.full = inner

def Resolves (site : Site) (files : FileTree) (channel : Channel) (flags : List Text)
    (content : Text) : Prop :=
  ∀ word ∈ Markup.directives content, ∃ directive, Directive.parse? flags word = some directive ∧
    ∃ loaded, site.HasTemplate files channel directive.templateRef loaded

/-- Nothing that can be reached from a file includes itself, names what is missing, or lies too
deep. -/
structure Composable (site : Site) (files : FileTree) (channel : Channel) (flags : List Text)
    (maxDepth : Nat) (root : Text) : Prop where
  acyclic : ∀ inner, ReflTransGen (site.Includes files channel flags) root inner →
    ¬ TransGen (site.Includes files channel flags) inner inner
  resolved : ∀ inner, ReflTransGen (site.Includes files channel flags) root inner →
    ∀ content, files.readText inner = .ok content → site.Resolves files channel flags content
  shallow : ∀ chain : List Text, chain.head? = some root →
    chain.IsChain (site.Includes files channel flags) → 2 ≤ chain.length →
      chain.length ≤ maxDepth

/-- What the tokens of a text unfold to: each directive gives way to what the text of its file
unfolds to, or to nothing where the channel has no variant. -/
inductive Unfolds (site : Site) (files : FileTree) (channel : Channel) (flags : List Text) :
    List Markup.Token → Text → Prop where
  | nil : Unfolds site files channel flags [] []
  | char (c : Char) {rest : List Markup.Token} {text : Text}
      (behind : Unfolds site files channel flags rest text) :
      Unfolds site files channel flags (.char c :: rest) (c :: text)
  | vacant {word content : Text} {directive : Directive} {rest : List Markup.Token} {text : Text}
      (parsed : Directive.parse? flags word = some directive)
      (loaded : site.HasTemplate files channel directive.templateRef ⟨none, content⟩)
      (behind : Unfolds site files channel flags rest text) :
      Unfolds site files channel flags (.directive word :: rest) text
  | file {word content inside : Text} {directive : Directive} {source : Source}
      {rest : List Markup.Token} {text : Text}
      (parsed : Directive.parse? flags word = some directive)
      (loaded : site.HasTemplate files channel directive.templateRef ⟨some source, content⟩)
      (inner : Unfolds site files channel flags (Markup.tokens content) inside)
      (behind : Unfolds site files channel flags rest text) :
      Unfolds site files channel flags (.directive word :: rest) (inside ++ text)

theorem Unfolds.unique {tokens : List Markup.Token} {first second : Text}
    (hfirst : site.Unfolds files channel flags tokens first)
    (hsecond : site.Unfolds files channel flags tokens second) : first = second := by
  induction hfirst generalizing second with
  | nil => cases hsecond; rfl
  | char c _ ih =>
      cases hsecond with
      | char _ behind => rw [ih behind]
  | vacant parsed loaded _ ih =>
      cases hsecond with
      | vacant _ _ behind => exact ih behind
      | file parsed' loaded' _ _ =>
          cases parsed.symm.trans parsed'
          cases loaded.unique loaded'
  | file parsed loaded _ _ ihInner ih =>
      cases hsecond with
      | vacant parsed' loaded' _ =>
          cases parsed.symm.trans parsed'
          cases loaded.unique loaded'
      | file parsed' loaded' inner behind =>
          cases parsed.symm.trans parsed'
          cases loaded.unique loaded'
          rw [ihInner inner, ih behind]

theorem Includes.of_readText_eq {other : Text}
    (hincludes : site.Includes files channel flags outer inner)
    (hread : files.readText other = files.readText outer) :
    site.Includes files channel flags other inner := by
  obtain ⟨content, houter, hword⟩ := hincludes
  exact ⟨content, hread.trans houter, hword⟩

theorem transGen_self_of_readText_eq
    (hpath : TransGen (site.Includes files channel flags) outer inner)
    (hread : files.readText inner = files.readText outer) :
    TransGen (site.Includes files channel flags) inner inner := by
  obtain ⟨next, hnext, hrest⟩ := TransGen.head'_iff.mp hpath
  exact TransGen.head' (hnext.of_readText_eq hread) hrest

theorem Composable.mono {deeper : Nat}
    (hcomposable : site.Composable files channel flags maxDepth root) (hle : maxDepth ≤ deeper) :
    site.Composable files channel flags deeper root where
  acyclic := hcomposable.acyclic
  resolved := hcomposable.resolved
  shallow chain hhead hchain htwo := (hcomposable.shallow chain hhead hchain htwo).trans hle

/-- Files entered one from within another, from `root` on. -/
inductive Trail (site : Site) (files : FileTree) (channel : Channel) (flags : List Text)
    (root : Text) : List Source → Source → Prop where
  | start {source : Source} (file : files.isFile source.full = true) (full : source.full = root) :
      Trail site files channel flags root [source] source
  | step {chain : List Source} {outer inner : Source}
      (trail : Trail site files channel flags root chain outer)
      (file : files.isFile inner.full = true)
      (includes : site.Includes files channel flags outer.full inner.full) :
      Trail site files channel flags root (chain ++ [inner]) inner

namespace Trail

variable {chain : List Source} {source : Source}

theorem reaches (htrail : site.Trail files channel flags root chain source) :
    ReflTransGen (site.Includes files channel flags) root source.full := by
  induction htrail with
  | start _ full => rw [full]
  | step _ _ includes ih => exact ih.tail includes

theorem isFile_of_mem (htrail : site.Trail files channel flags root chain source)
    {entered : Source} (hmem : entered ∈ chain) : files.isFile entered.full = true := by
  induction htrail with
  | start file _ => rwa [List.mem_singleton.mp hmem]
  | step _ file _ ih =>
      rcases List.mem_append.mp hmem with hmem | hmem
      · exact ih hmem
      · rwa [List.mem_singleton.mp hmem]

theorem reaches_of_mem (htrail : site.Trail files channel flags root chain source)
    {entered : Source} (hmem : entered ∈ chain) :
    ReflTransGen (site.Includes files channel flags) entered.full source.full := by
  induction htrail with
  | start _ _ => rw [List.mem_singleton.mp hmem]
  | step _ _ includes ih =>
      rcases List.mem_append.mp hmem with hmem | hmem
      · exact (ih hmem).tail includes
      · rw [List.mem_singleton.mp hmem]

theorem isChain (htrail : site.Trail files channel flags root chain source) :
    (chain.map Source.full).IsChain (site.Includes files channel flags) ∧
      (chain.map Source.full).head? = some root ∧
        (chain.map Source.full).getLast? = some source.full := by
  induction htrail with
  | start _ full => simp [full]
  | @step chain outer inner _ _ includes ih =>
      obtain ⟨hchain, hhead, hlast⟩ := ih
      rw [List.map_append, List.map_singleton]
      refine ⟨List.isChain_append.mpr ⟨hchain, List.isChain_singleton _, ?_⟩, ?_, ?_⟩
      · intro before hbefore after hafter
        rw [hlast] at hbefore
        cases hbefore
        cases hafter
        exact includes
      · rw [List.head?_append, hhead]
        rfl
      · rw [List.getLast?_append]
        rfl

theorem not_isBarred (hcomposable : site.Composable files channel flags maxDepth root)
    (htrail : site.Trail files channel flags root chain source) {next : Source}
    (hfile : files.isFile next.full = true)
    (hincludes : site.Includes files channel flags source.full next.full) {nesting : Catalogue.Nesting}
    (hdepth : nesting.maxDepth = maxDepth) : nesting.isBarred chain next = false := by
  have hwhole := (htrail.step hfile hincludes).isChain
  have hlength : (chain ++ [next]).length ≤ maxDepth := by
    have hle := hcomposable.shallow _ hwhole.2.1 hwhole.1
    have hpos : 0 < chain.length := by
      cases htrail <;> simp
    simp only [List.length_map, List.length_append, List.length_singleton] at hle ⊢
    exact hle (by omega)
  have hnew : chain.any (Catalogue.isSameFile · next) = false := by
    rw [List.any_eq_false]
    intro entered hmem hsame
    -- The paths may be spelled differently, but what they hold is the same.
    have hread := FileTree.readText_eq_of_same hsame (htrail.isFile_of_mem hmem) hfile
    have hpath := TransGen.tail' (htrail.reaches_of_mem hmem) hincludes
    exact hcomposable.acyclic next.full (htrail.reaches.tail hincludes)
      (transGen_self_of_readText_eq hpath hread.symm)
  rw [List.length_append, List.length_singleton] at hlength
  simp only [Catalogue.Nesting.isBarred, hnew, hdepth, Bool.false_or, decide_eq_false_iff_not]
  omega

end Trail

end Transclusion.Site
