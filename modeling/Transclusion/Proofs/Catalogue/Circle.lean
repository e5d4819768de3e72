import Mathlib.Data.Set.Card
import Transclusion.Proofs.Catalogue.Expansion
import Transclusion.Proofs.Site.Containment

namespace Transclusion

/-! The files that are entered one from within another, and what it means that one of them may not
be entered again. -/

namespace Catalogue

variable {nesting : Nesting} {chain : List Source} {content : Text}

def Nesting.Names (nesting : Nesting) (content : Text) (source : Source) (inside : Text) : Prop :=
  ∃ word ∈ Markup.directives content, ∃ directive, parse nesting.flags word = .ok directive ∧
    nesting.load directive.templateRef = .ok ⟨some source, inside⟩

/-- Expands as `expand` does, but only so many files deep. What lies within deeper ones is left to
`beyond`. -/
def Nesting.expandTo (nesting : Nesting) (beyond : List Source → Text → Except Failure Text) :
    Nat → List Source → Text → Except Failure Text
  | 0, chain, content => beyond chain content
  | depth + 1, chain, content =>
      Markup.replace (fun text => do
        let directive ← parse nesting.flags text
        let loaded ← nesting.load directive.templateRef
        match loaded.source with
        | none => return []
        | some source =>
            if nesting.isBarred chain source then
              throw (.cycle ((chain ++ [source]).map Source.relative))
            else nesting.expandTo beyond depth (chain ++ [source]) loaded.content) content

theorem Nesting.expandTo_succ {beyond : List Source → Text → Except Failure Text} {depth : Nat}
    (hinner : ∀ source inside, nesting.Names content source inside →
      nesting.isBarred chain source = false →
        nesting.expandTo beyond depth (chain ++ [source]) inside =
          nesting.expand (chain ++ [source]) inside) :
    nesting.expandTo beyond (depth + 1) chain content = nesting.expand chain content := by
  rw [Nesting.expand_eq, Nesting.expandTo]
  refine Markup.replaceTokens_congr fun word hword => ?_
  rw [← Markup.mem_directives] at hword
  unfold Nesting.place
  cases hparse : parse nesting.flags word with
  | error failure => rfl
  | ok directive =>
      cases hload : nesting.load directive.templateRef with
      | error failure => simp only [hload, bind, Except.bind]
      | ok loaded =>
          obtain ⟨source, inside⟩ := loaded
          simp only [hload, bind, Except.bind]
          cases source with
          | none => rfl
          | some source =>
              dsimp only
              split
              · rfl
              · next hfree =>
                  have hnames : nesting.Names content source inside :=
                    ⟨word, hword, directive, hparse, hload⟩
                  exact hinner source inside hnames (Bool.eq_false_iff.mpr hfree)

theorem Nesting.isBarred_eq_true_iff {source : Source} :
    nesting.isBarred chain source = true ↔
      (∃ file ∈ chain, isSameFile file source = true) ∨ nesting.maxDepth ≤ chain.length := by
  rw [isBarred, Bool.or_eq_true, List.any_eq_true, decide_eq_true_eq]

end Catalogue

namespace Site

open Catalogue

variable {site : Site} {files : FileTree} {channel : Channel} {flags : List Text}
  {maxDepth : Nat} {start : Option Source} {chain : List Source} {source : Source}
  {content inside : Text}

def Leads (site : Site) (files : FileTree) (channel : Channel) (flags : List Text)
    (outer inner : Source) : Prop :=
  ∃ content, files.readText outer.full = .ok content ∧
    ∃ word ∈ Markup.directives content, ∃ directive, Directive.parse? flags word = some directive ∧
      site.locate files channel directive.templateRef = .ok (.found inner)

def Locates (site : Site) (files : FileTree) (channel : Channel) (source : Source) : Prop :=
  ∃ name, site.locate files channel name = .ok (.found source)

def templatePaths (site : Site) (files : FileTree) (channel : Channel) : Set Path.Parts :=
  (fun source => Path.parts source.full) '' {source | site.Locates files channel source}

/-- Every root with the end of every place behind it. -/
def candidates (site : Site) (files : FileTree) : List Source :=
  site.roots.flatMap fun root =>
    (files.nodes.flatMap (·.1.tails)).map fun names => ⟨root, Text.join ['/'] names⟩

theorem exists_node_of_at? {place : List Text} {bytes : Bytes}
    (hat : files.at? place = some (.file bytes)) : ∃ node ∈ files.nodes, node.1 = place := by
  rw [FileTree.at?] at hat
  split at hat
  · cases hat
  · obtain ⟨before, behind, hnodes, -⟩ := List.lookup_eq_some_iff.mp hat
    exact ⟨_, hnodes ▸ List.mem_append_right before List.mem_cons_self, rfl⟩

theorem Locates.mem_candidates (hlocates : site.Locates files channel source) :
    source ∈ site.candidates files := by
  obtain ⟨name, hlocate⟩ := hlocates
  obtain ⟨hroot, hdescends⟩ := descends_of_locate_found hlocate
  obtain ⟨bytes, hlook⟩ := FileTree.look_of_isFile (isFile_of_locate hlocate)
  obtain ⟨node, hnode, hplace⟩ := exists_node_of_at? (FileTree.at?_of_look hdescends hlook)
  have hnames : Text.split '/' source.relative ∈ files.nodes.flatMap (·.1.tails) := by
    refine List.mem_flatMap.mpr ⟨node, hnode, ?_⟩
    rw [List.mem_tails, hplace]
    exact List.suffix_append _ _
  apply List.mem_flatMap.mpr
  refine ⟨source.root, hroot, List.mem_map.mpr ⟨_, hnames, ?_⟩⟩
  obtain ⟨root, relative⟩ := source
  exact congrArg (Source.mk root) (List.intercalate_splitOn '/')

theorem finite_templatePaths : (site.templatePaths files channel).Finite := by
  apply Set.Finite.image
  apply (List.finite_toSet (site.candidates files)).subset
  intro source hlocates
  exact hlocates.mem_candidates

theorem locates_of_names (hnames : (site.nesting files channel flags maxDepth).Names content source
      inside) :
    site.Locates files channel source ∧ files.readText source.full = .ok inside ∧
      ∀ outer, files.readText outer.full = .ok content →
        site.Leads files channel flags outer source := by
  obtain ⟨word, hword, directive, hparse, hload⟩ := hnames
  rcases loadTemplate_eq_ok_iff_locate.mp hload with
    ⟨found, inside', hlocate, hread, heq⟩ | ⟨path, -, heq⟩
  · cases heq
    refine ⟨⟨_, hlocate⟩, hread, fun outer houter => ?_⟩
    exact ⟨content, houter, word, hword, directive, parse_eq_ok_iff.mp hparse, hlocate⟩
  · cases heq

/-- Files that have been entered one from within another, up to the file of the content. A page that
is no file's has no text. -/
structure Nest (site : Site) (files : FileTree) (channel : Channel) (flags : List Text)
    (maxDepth : Nat) (start : Option Source) (chain : List Source) (content : Text) : Prop where
  begins : chain.head? = start
  linked : chain.IsChain (site.Leads files channel flags)
  located : ∀ file ∈ chain, site.Locates files channel file
  distinct : chain.Pairwise (isSameFile · · = false)
  shallow : chain.length ≤ max 1 maxDepth
  opened : ∀ last ∈ chain.getLast?, files.readText last.full = .ok content
  vacant : chain = [] → content = []

namespace Nest

variable (hnest : site.Nest files channel flags maxDepth start chain content)
include hnest

theorem ne_nil (hnames : (site.nesting files channel flags maxDepth).Names content source inside) :
    chain ≠ [] := by
  intro hnil
  obtain ⟨word, hword, -⟩ := hnames
  rw [hnest.vacant hnil] at hword
  exact absurd hword List.not_mem_nil

theorem linked_concat
    (hnames : (site.nesting files channel flags maxDepth).Names content source inside) :
    (chain ++ [source]).IsChain (site.Leads files channel flags) := by
  refine List.isChain_append.mpr ⟨hnest.linked, List.isChain_singleton _, ?_⟩
  intro last hlast next hnext
  cases hnext
  exact (locates_of_names hnames).2.2 last (hnest.opened last hlast)

theorem located_concat
    (hnames : (site.nesting files channel flags maxDepth).Names content source inside) :
    ∀ file ∈ chain ++ [source], site.Locates files channel file := by
  intro file hmem
  rcases List.mem_append.mp hmem with hmem | hmem
  · exact hnest.located file hmem
  · rw [List.mem_singleton.mp hmem]
    exact (locates_of_names hnames).1

theorem enter (hnames : (site.nesting files channel flags maxDepth).Names content source inside)
    (hfree : (site.nesting files channel flags maxDepth).isBarred chain source = false) :
    site.Nest files channel flags maxDepth start (chain ++ [source]) inside := by
  rw [← Bool.not_eq_true, Nesting.isBarred_eq_true_iff, not_or, not_exists] at hfree
  obtain ⟨hnew, hroom⟩ := hfree
  change ¬ maxDepth ≤ chain.length at hroom
  refine ⟨?_, hnest.linked_concat hnames, hnest.located_concat hnames, ?_, ?_, ?_, ?_⟩
  · rw [List.head?_append_of_ne_nil _ (hnest.ne_nil hnames)]
    exact hnest.begins
  · refine List.pairwise_append.mpr ⟨hnest.distinct, List.pairwise_singleton _ _, ?_⟩
    intro file hmem next hnext
    rw [List.mem_singleton.mp hnext, ← Bool.not_eq_true]
    exact fun hsame => hnew file ⟨hmem, hsame⟩
  · rw [List.length_append, List.length_singleton]
    omega
  · intro last hlast
    rw [List.getLast?_concat] at hlast
    cases hlast
    exact (locates_of_names hnames).2.1
  · intro hnil
    exact absurd hnil (List.concat_ne_nil source chain)

theorem length_le : chain.length ≤ (site.templatePaths files channel).ncard := by
  have hnodup : (chain.map fun file => Path.parts file.full).Nodup := by
    refine List.pairwise_map.mpr (hnest.distinct.imp fun hother hsame => ?_)
    rw [isSameFile, Path.same, hsame, beq_self_eq_true] at hother
    cases hother
  rw [← List.length_map (fun file => Path.parts file.full), ← List.toFinset_card_of_nodup hnodup,
    ← Set.ncard_coe_finset]
  refine Set.ncard_le_ncard (fun path hmem => ?_) finite_templatePaths
  rw [Finset.mem_coe, List.mem_toFinset] at hmem
  obtain ⟨file, hfile, rfl⟩ := List.mem_map.mp hmem
  exact ⟨file, hnest.located file hfile, rfl⟩

theorem expandTo_eq {beyond : List Source → Text → Except Failure Text} {depth : Nat}
    (hdepth : max 1 maxDepth < chain.length + depth ∨
      (site.templatePaths files channel).ncard < chain.length + depth) :
    (site.nesting files channel flags maxDepth).expandTo beyond depth chain content =
      (site.nesting files channel flags maxDepth).expand chain content := by
  induction depth generalizing chain content with
  | zero =>
      have hshallow := hnest.shallow
      have hle := hnest.length_le
      omega
  | succ depth ih =>
      refine Nesting.expandTo_succ fun source inside hnames hfree => ?_
      apply ih (hnest.enter hnames hfree)
      rw [List.length_append, List.length_singleton]
      omega

end Nest

theorem nest_of_loadTemplate {name : Text} {entry : Partial}
    (hload : site.loadTemplate files channel name = .ok ⟨entry.source, entry.content⟩) :
    site.Nest files channel flags maxDepth entry.source entry.source.toList entry.content := by
  rcases loadTemplate_eq_ok_iff_locate.mp hload with
    ⟨source, content, hlocate, hread, heq⟩ | ⟨path, -, heq⟩
  · obtain ⟨hsource, hcontent⟩ := Loaded.mk.inj heq
    rw [hsource, hcontent, Option.toList_some]
    refine ⟨rfl, List.isChain_singleton _, ?_, List.pairwise_singleton _ _, ?_, ?_, ?_⟩
    · intro file hmem
      rw [List.mem_singleton.mp hmem]
      exact ⟨name, hlocate⟩
    · exact le_max_left 1 maxDepth
    · intro last hlast
      cases hlast
      exact hread
    · exact fun hnil => absurd hnil (List.cons_ne_nil _ _)
  · obtain ⟨hsource, hcontent⟩ := Loaded.mk.inj heq
    rw [hsource, hcontent, Option.toList_none]
    refine ⟨rfl, List.isChain_nil, ?_, List.Pairwise.nil, Nat.zero_le _, ?_, fun _ => rfl⟩
    · exact fun _ hmem => absurd hmem List.not_mem_nil
    · exact fun _ hlast => absurd hlast (Option.not_mem_none _)

theorem loadTemplate_ne_cycle (name : Text) (names : List Text) :
    site.loadTemplate files channel name ≠ .error (.cycle names) := by
  intro hload
  rcases loadTemplate_eq_error hload with hlocate | ⟨source, -, heq⟩
  · obtain ⟨path, heq⟩ := locate_eq_error hlocate
    cases heq
  · cases heq

/-- Files one from within another, from the first on, of which the last is one of those before it or
lies too deep. -/
structure Circle (site : Site) (files : FileTree) (channel : Channel) (flags : List Text)
    (maxDepth : Nat) (first : Source) (chain : List Source) (last : Source) : Prop where
  begins : chain.head? = some first
  linked : (chain ++ [last]).IsChain (site.Leads files channel flags)
  located : ∀ file ∈ chain ++ [last], site.Locates files channel file
  distinct : chain.Pairwise (isSameFile · · = false)
  shallow : chain.length ≤ max 1 maxDepth
  closed : (∃ file ∈ chain, isSameFile file last = true) ∨ maxDepth ≤ chain.length

theorem Nest.circle (hnest : site.Nest files channel flags maxDepth start chain content)
    (hnames : (site.nesting files channel flags maxDepth).Names content source inside)
    (hbarred : (site.nesting files channel flags maxDepth).isBarred chain source = true) :
    ∃ first, start = some first ∧
      site.Circle files channel flags maxDepth first chain source := by
  obtain ⟨first, further, rfl⟩ := List.exists_cons_of_ne_nil (hnest.ne_nil hnames)
  refine ⟨first, hnest.begins.symm, rfl, hnest.linked_concat hnames, hnest.located_concat hnames,
    hnest.distinct, hnest.shallow, ?_⟩
  exact Nesting.isBarred_eq_true_iff.mp hbarred

theorem Nest.exists_circle (hnest : site.Nest files channel flags maxDepth start chain content)
    {names : List Text}
    (hexpand : (site.nesting files channel flags maxDepth).expand chain content =
      .error (.cycle names)) :
    ∃ first chain last, start = some first ∧ names = (chain ++ [last]).map Source.relative ∧
      site.Circle files channel flags maxDepth first chain last := by
  -- Every file that is entered takes up some of the room that the depth limit leaves.
  induction hroom : maxDepth - chain.length using Nat.strongRecOn generalizing chain content with
  | _ room ih =>
      rw [Nesting.expand_eq] at hexpand
      obtain ⟨word, hword, hplace⟩ := Markup.replaceTokens_eq_error hexpand
      rw [← Markup.mem_directives] at hword
      rcases Nesting.place_eq_error hplace with hparse | ⟨directive, hparse, hplace⟩
      · cases (parse_eq_error_iff.mp hparse).2
      rcases hplace with hload | ⟨source, inside, hload, hplace⟩
      · exact absurd hload (loadTemplate_ne_cycle _ _)
      have hnames : (site.nesting files channel flags maxDepth).Names content source inside :=
        ⟨word, hword, directive, hparse, hload⟩
      rcases hplace with ⟨hbarred, heq⟩ | ⟨hfree, hinside⟩
      · obtain ⟨first, hstart, hcircle⟩ := hnest.circle hnames hbarred
        exact ⟨first, chain, source, hstart, Failure.cycle.inj heq, hcircle⟩
      · have hlt := Nesting.room_lt_of_free hfree
        exact ih _ (hroom ▸ hlt) (hnest.enter hnames hfree) hinside rfl

end Site

namespace Catalogue

variable {site : Site} {files : FileTree} {channel : Channel} {flags : List Text}
  {body : Text} {count : Nat} {catalogue : Catalogue}

theorem expand_eq_error {nesting : Nesting} {failure : Failure}
    (hfail : (expand nesting catalogue).1 = .error failure) :
    ∃ key entry, (key, entry) ∈ catalogue ∧
      nesting.expand entry.source.toList entry.content = .error failure := by
  obtain ⟨before, key, entry, behind, rfl, -, hentry, -⟩ :=
    Dict.sweep_eq_error (Prod.ext hfail rfl : expand nesting catalogue = (.error failure, _))
  refine ⟨key, entry, List.mem_append_right before List.mem_cons_self, ?_⟩
  unfold expandEntry at hentry
  split at hentry
  · cases hentry
  · next other hother =>
      cases hentry
      exact hother

theorem nest_of_gather {key : Text} {entry : Partial}
    (hgather : gather flags (load site files channel) body [] = (.ok count, catalogue))
    (hmem : (key, entry) ∈ catalogue) :
    site.Nest files channel flags maxDepth entry.source entry.source.toList entry.content := by
  obtain ⟨name, hload⟩ := loadTemplate_of_gather hgather hmem
  exact Site.nest_of_loadTemplate hload

/-- A circle that is reported begins at the file of some entry, and each of its files leads to the
next. Files are entered no deeper than the depth limit allows, and never more of them than there
are. -/
theorem circle_of_expand (maxDepth : Nat)
    (hgather : gather flags (load site files channel) body [] = (.ok count, catalogue)) :
    (∀ names, (expand (site.nesting files channel flags maxDepth) catalogue).1 =
        .error (.cycle names) →
      ∃ key entry first chain last, (key, entry) ∈ catalogue ∧ entry.source = some first ∧
        names = (chain ++ [last]).map Source.relative ∧
          site.Circle files channel flags maxDepth first chain last) ∧
    ∀ key entry first, (key, entry) ∈ catalogue → entry.source = some first →
      ∀ beyond depth,
        max 1 maxDepth ≤ depth ∨ (site.templatePaths files channel).ncard ≤ depth →
          (site.nesting files channel flags maxDepth).expandTo beyond depth [first] entry.content =
            (site.nesting files channel flags maxDepth).expand [first] entry.content := by
  refine ⟨fun names hcycle => ?_, fun key entry first hmem hsource beyond depth hdepth => ?_⟩
  · obtain ⟨key, entry, hmem, hexpand⟩ := expand_eq_error hcycle
    obtain ⟨first, chain, last, hsource, hnames, hcircle⟩ :=
      (nest_of_gather hgather hmem).exists_circle hexpand
    exact ⟨key, entry, first, chain, last, hmem, hsource, hnames, hcircle⟩
  · have hnest : site.Nest files channel flags maxDepth entry.source entry.source.toList
        entry.content := nest_of_gather hgather hmem
    rw [hsource, Option.toList_some] at hnest
    apply hnest.expandTo_eq
    rw [List.length_singleton]
    omega

def facing : FileTree :=
  Site.small.tree [("a.html", "{{> c}}{{> b}}"), ("b.html", "{{> a}}"), ("c.html", "x")]

def facing.first : Source :=
  ⟨['r'], "a.html".toList⟩

def facing.second : Source :=
  ⟨['r'], "b.html".toList⟩

def facing.entry : Partial :=
  ⟨some facing.first, "{{> c}}{{> b}}".toList, none⟩

def facing.names : List Text :=
  ["a.html".toList, "b.html".toList, "a.html".toList]

private theorem facing.expand_entry :
    (Site.nesting .small facing ⟨[]⟩ [] 32).expand facing.entry.source.toList
      facing.entry.content = .error (.cycle facing.names) := by
  have hthird : (Site.nesting .small facing ⟨[]⟩ [] 32).expand
      [facing.first, ⟨['r'], "c.html".toList⟩] ['x'] = .ok ['x'] :=
    Nesting.expand_eq_ok_iff.mpr (.char 'x' .nil)
  have hback : (Site.nesting .small facing ⟨[]⟩ [] 32).place [facing.first, facing.second]
      "{{> a}}".toList = .error (.cycle facing.names) := by rfl
  have hsecond : (Site.nesting .small facing ⟨[]⟩ [] 32).expand [facing.first, facing.second]
      "{{> a}}".toList = .error (.cycle facing.names) := by
    rw [Nesting.expand_eq]
    change Markup.replaceTokens _ [.directive "{{> a}}".toList] = _
    rw [Markup.replaceTokens, hback]
    rfl
  have hfront : (Site.nesting .small facing ⟨[]⟩ [] 32).place [facing.first]
      "{{> c}}".toList = .ok ['x'] := hthird
  have hbehind : (Site.nesting .small facing ⟨[]⟩ [] 32).place [facing.first]
      "{{> b}}".toList = .error (.cycle facing.names) := hsecond
  change (Site.nesting .small facing ⟨[]⟩ [] 32).expand [facing.first] _ = _
  rw [Nesting.expand_eq]
  change Markup.replaceTokens _ [.directive "{{> c}}".toList, .directive "{{> b}}".toList] = _
  rw [Markup.replaceTokens, hfront, Markup.replaceTokens, hbehind]
  rfl

theorem circle_of_facing :
    gather [] (load .small facing ⟨[]⟩) "{{> a}}".toList [] = (.ok 1, [(['a'], facing.entry)]) ∧
      (expand (Site.nesting .small facing ⟨[]⟩ [] 32) [(['a'], facing.entry)]).1 =
        .error (.cycle facing.names) ∧
      (∃ key entry first chain last, (key, entry) ∈ [(['a'], facing.entry)] ∧
        entry.source = some first ∧ facing.names = (chain ++ [last]).map Source.relative ∧
          Site.Circle .small facing ⟨[]⟩ [] 32 first chain last) ∧
      ∀ beyond, (Site.nesting .small facing ⟨[]⟩ [] 32).expandTo beyond 32 [facing.first]
        facing.entry.content = .error (.cycle facing.names) := by
  have hgather : gather [] (load .small facing ⟨[]⟩) "{{> a}}".toList [] =
      (.ok 1, [(['a'], facing.entry)]) := by rfl
  have hexpand : (expand (Site.nesting .small facing ⟨[]⟩ [] 32) [(['a'], facing.entry)]).1 =
      .error (.cycle facing.names) := by
    simp only [expand, Dict.sweep, expandEntry, facing.expand_entry]
  obtain ⟨hcircle, hdepth⟩ := circle_of_expand 32 hgather
  refine ⟨hgather, hexpand, hcircle _ hexpand, fun beyond => ?_⟩
  rw [hdepth _ _ _ List.mem_cons_self rfl beyond 32 (.inl (by decide))]
  exact facing.expand_entry

end Catalogue

end Transclusion
