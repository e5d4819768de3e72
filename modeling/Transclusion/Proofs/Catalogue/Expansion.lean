import Transclusion.Proofs.Catalogue.Gathered
import Transclusion.Proofs.Catalogue.Inclusion

namespace Transclusion

/-! When the templates of a catalogue can be expanded, and what they come to. -/

open Relation

namespace Catalogue

variable {nesting : Nesting} {chain : List Source} {content text word new : Text}

def Nesting.place (nesting : Nesting) (chain : List Source) (word : Text) :
    Except Failure Text := do
  let directive ← parse nesting.flags word
  let loaded ← nesting.load directive.templateRef
  match loaded.source with
  | none => return []
  | some source =>
      if nesting.isBarred chain source then
        throw (.cycle ((chain ++ [source]).map Source.relative))
      else nesting.expand (chain ++ [source]) loaded.content

theorem Nesting.expand_eq (nesting : Nesting) (chain : List Source) (content : Text) :
    nesting.expand chain content = Markup.replace (nesting.place chain) content := by
  rw [Nesting.expand]
  rfl

theorem Nesting.room_lt_of_free {source : Source}
    (hfree : nesting.isBarred chain source = false) :
    nesting.maxDepth - (chain ++ [source]).length < nesting.maxDepth - chain.length :=
  Nesting.room_lt (Bool.eq_false_iff.mp hfree)

theorem Nesting.place_eq_ok_iff :
    nesting.place chain word = .ok new ↔
      ∃ directive loaded, Directive.parse? nesting.flags word = some directive ∧
        nesting.load directive.templateRef = .ok loaded ∧
          ((loaded.source = none ∧ new = []) ∨
            ∃ source, loaded.source = some source ∧ nesting.isBarred chain source = false ∧
              nesting.expand (chain ++ [source]) loaded.content = .ok new) := by
  unfold Nesting.place
  cases hparse : Directive.parse? nesting.flags word with
  | none => simp [parse, hparse, bind, Except.bind]
  | some directive =>
      cases hload : nesting.load directive.templateRef with
      | error failure => simp [parse, hparse, hload, bind, Except.bind]
      | ok loaded =>
          obtain ⟨source, content⟩ := loaded
          cases source with
          | none =>
              simp only [parse, hparse, bind, Except.bind, hload, pure, Except.pure, Except.ok.injEq]
              constructor
              · rintro rfl
                exact ⟨directive, _, rfl, hload, .inl ⟨rfl, rfl⟩⟩
              · rintro ⟨directive', loaded, hdirective, hload', ⟨-, rfl⟩ | ⟨source, hsource, -⟩⟩
                · rfl
                · cases hdirective
                  cases hload.symm.trans hload'
                  cases hsource
          | some source =>
              cases hbarred : nesting.isBarred chain source <;>
                simp [parse, hparse, hload, bind, Except.bind, hbarred, throw, throwThe,
                  MonadExceptOf.throw]

theorem Nesting.place_eq_error {failure : Failure}
    (hplace : nesting.place chain word = .error failure) :
    parse nesting.flags word = .error failure ∨
      ∃ directive, parse nesting.flags word = .ok directive ∧
        (nesting.load directive.templateRef = .error failure ∨
          ∃ source inside, nesting.load directive.templateRef = .ok ⟨some source, inside⟩ ∧
            ((nesting.isBarred chain source = true ∧
                failure = .cycle ((chain ++ [source]).map Source.relative)) ∨
              (nesting.isBarred chain source = false ∧
                nesting.expand (chain ++ [source]) inside = .error failure))) := by
  unfold Nesting.place at hplace
  cases hparse : parse nesting.flags word with
  | error other =>
      rw [hparse] at hplace
      cases hplace
      exact .inl rfl
  | ok directive =>
      refine .inr ⟨directive, rfl, ?_⟩
      cases hload : nesting.load directive.templateRef with
      | error other =>
          simp only [hparse, hload, bind, Except.bind] at hplace
          cases hplace
          exact .inl rfl
      | ok loaded =>
          obtain ⟨source, inside⟩ := loaded
          simp only [hparse, hload, bind, Except.bind] at hplace
          cases source with
          | none => cases hplace
          | some source =>
              refine .inr ⟨source, inside, rfl, ?_⟩
              cases hbarred : nesting.isBarred chain source with
              | true =>
                  simp only [hbarred, if_true] at hplace
                  cases hplace
                  exact .inl ⟨rfl, rfl⟩
              | false =>
                  simp only [hbarred, Bool.false_eq_true, if_false] at hplace
                  exact .inr ⟨rfl, hplace⟩

theorem Nesting.expand_eq_ok_iff :
    nesting.expand chain content = .ok text ↔
      Markup.Replaced (fun word new => nesting.place chain word = .ok new)
        (Markup.tokens content) text := by
  rw [nesting.expand_eq, Markup.replace_eq_ok_iff]

theorem Nesting.expand_self (nesting : Nesting) (chain : List Source)
    (hspans : Markup.spans content = []) : nesting.expand chain content = .ok content := by
  rw [Nesting.expand_eq_ok_iff]
  exact Markup.replaced_self ((Markup.spans_eq_nil_iff content).mp hspans)

end Catalogue

namespace Site

variable {site : Site} {files : FileTree} {channel : Channel} {flags : List Text}
  {maxDepth : Nat} {root outer inner : Text} {chain : List Source} {content text : Text}

def nesting (site : Site) (files : FileTree) (channel : Channel) (flags : List Text)
    (maxDepth : Nat) : Catalogue.Nesting where
  flags := flags
  load := site.loadTemplate files channel
  maxDepth := maxDepth

theorem unfolds_of_expand
    (hexpand : (site.nesting files channel flags maxDepth).expand chain content = .ok text) :
    site.Unfolds files channel flags (Markup.tokens content) text := by
  -- Every file that is entered takes up some of the room that the depth limit leaves.
  induction hroom : maxDepth - chain.length using Nat.strongRecOn generalizing chain content text with
  | _ room ih =>
      have hreplaced := Catalogue.Nesting.expand_eq_ok_iff.mp hexpand
      clear hexpand
      generalize Markup.tokens content = tokens at hreplaced ⊢
      induction hreplaced with
      | nil => exact .nil
      | char c _ ihBehind => exact .char c ihBehind
      | @directive word new rest text allowed _ ihBehind =>
          obtain ⟨directive, ⟨source, inside⟩, hparse, hload, hplace⟩ :=
            Catalogue.Nesting.place_eq_ok_iff.mp allowed
          have hloaded := loadTemplate_eq_ok_iff.mp hload
          rcases hplace with ⟨hnone, rfl⟩ | ⟨source, hsource, hbarred, hinside⟩
          · cases hnone
            exact .vacant hparse hloaded ihBehind
          · cases hsource
            have hlt := Catalogue.Nesting.room_lt_of_free hbarred
            exact .file hparse hloaded (ih _ (hroom ▸ hlt) hinside rfl) ihBehind

structure Opened (site : Site) (files : FileTree) (channel : Channel) (flags : List Text)
    (maxDepth : Nat) (chain : List Source) (file : Text) : Prop where
  entered : ∃ source ∈ chain, source.full = file
  expanded : ∃ content text, files.readText file = .ok content ∧
    (site.nesting files channel flags maxDepth).expand chain content = .ok text

namespace Opened

variable {file : Text}

theorem resolves (hopened : site.Opened files channel flags maxDepth chain file)
    (hread : files.readText file = .ok content) : site.Resolves files channel flags content := by
  obtain ⟨content', text, hread', hexpand⟩ := hopened.expanded
  cases hread.symm.trans hread'
  intro word hword
  obtain ⟨new, hplace⟩ := Markup.Replaced.exists_iff.mp
    ⟨text, Catalogue.Nesting.expand_eq_ok_iff.mp hexpand⟩ word (Markup.mem_directives.mp hword)
  obtain ⟨directive, loaded, hparse, hload, -⟩ := Catalogue.Nesting.place_eq_ok_iff.mp hplace
  exact ⟨directive, hparse, loaded, loadTemplate_eq_ok_iff.mp hload⟩

theorem step (hopened : site.Opened files channel flags maxDepth chain outer)
    (hincludes : site.Includes files channel flags outer inner) :
    ∃ source, source.full = inner ∧
      (site.nesting files channel flags maxDepth).isBarred chain source = false ∧
        site.Opened files channel flags maxDepth (chain ++ [source]) inner := by
  obtain ⟨content, hread, word, hword, directive, hparse, source, hlocate, hfull⟩ := hincludes
  obtain ⟨content', text, hread', hexpand⟩ := hopened.expanded
  cases hread.symm.trans hread'
  obtain ⟨new, hplace⟩ := Markup.Replaced.exists_iff.mp
    ⟨text, Catalogue.Nesting.expand_eq_ok_iff.mp hexpand⟩ word (Markup.mem_directives.mp hword)
  obtain ⟨directive', loaded, hparse', hload, hplace⟩ :=
    Catalogue.Nesting.place_eq_ok_iff.mp hplace
  cases hparse.symm.trans hparse'
  rcases loadTemplate_eq_ok_iff_locate.mp hload with
    ⟨source', inside, hlocate', hinside, rfl⟩ | ⟨path, hlocate', rfl⟩
  · cases hlocate.symm.trans hlocate'
    rcases hplace with ⟨hnone, -⟩ | ⟨source', hsource, hbarred, hexpand⟩
    · cases hnone
    · cases hsource
      refine ⟨source, hfull, hbarred, ⟨source, ?_, hfull⟩, inside, new, hfull ▸ hinside, hexpand⟩
      exact List.mem_append_right _ List.mem_cons_self
  · cases hlocate.symm.trans hlocate'

theorem exists_of_reflTransGen (hopened : site.Opened files channel flags maxDepth chain outer)
    (hreach : ReflTransGen (site.Includes files channel flags) outer inner) :
    ∃ further, site.Opened files channel flags maxDepth (chain ++ further) inner := by
  induction hreach with
  | refl => exact ⟨[], by rwa [List.append_nil]⟩
  | tail _ hincludes ih =>
      obtain ⟨further, hfurther⟩ := ih
      obtain ⟨source, -, -, hnext⟩ := hfurther.step hincludes
      exact ⟨further ++ [source], by rwa [← List.append_assoc]⟩

theorem not_transGen_self (hopened : site.Opened files channel flags maxDepth chain inner) :
    ¬ TransGen (site.Includes files channel flags) inner inner := by
  intro hcircle
  obtain ⟨last, hreach, hincludes⟩ := TransGen.tail'_iff.mp hcircle
  obtain ⟨further, hfurther⟩ := hopened.exists_of_reflTransGen hreach
  obtain ⟨source, hfull, hbarred, -⟩ := hfurther.step hincludes
  obtain ⟨entered, hmem, hentered⟩ := hopened.entered
  simp only [Catalogue.Nesting.isBarred, Bool.or_eq_false_iff, List.any_eq_false] at hbarred
  refine hbarred.1 entered (List.mem_append_left _ hmem) ?_
  rw [Catalogue.isSameFile, hentered, hfull, Path.same, beq_self_eq_true]

theorem length_le (hopened : site.Opened files channel flags maxDepth chain outer)
    {further : List Text}
    (hchain : (outer :: further).IsChain (site.Includes files channel flags))
    (hne : further ≠ []) : chain.length + further.length ≤ maxDepth := by
  induction further generalizing chain outer with
  | nil => exact absurd rfl hne
  | cons next rest ih =>
      obtain ⟨hincludes, hrest⟩ := List.isChain_cons_cons.mp hchain
      obtain ⟨source, -, hbarred, hnext⟩ := hopened.step hincludes
      have hroom : chain.length < maxDepth := by
        simp only [Catalogue.Nesting.isBarred, Bool.or_eq_false_iff, decide_eq_false_iff_not,
          Nat.not_le] at hbarred
        exact hbarred.2
      cases rest with
      | nil =>
          simp only [List.length_cons, List.length_nil]
          omega
      | cons after rest =>
          have hle := ih hnext hrest (List.cons_ne_nil _ _)
          simp only [List.length_append, List.length_cons, List.length_nil] at hle ⊢
          omega

theorem composable {source : Source}
    (hopened : site.Opened files channel flags maxDepth [source] root) :
    site.Composable files channel flags maxDepth root where
  acyclic inner hreach := by
    obtain ⟨further, hfurther⟩ := hopened.exists_of_reflTransGen hreach
    exact hfurther.not_transGen_self
  resolved inner hreach content hread := by
    obtain ⟨further, hfurther⟩ := hopened.exists_of_reflTransGen hreach
    exact hfurther.resolves hread
  shallow chain hhead hchain htwo := by
    cases chain with
    | nil => cases hhead
    | cons first further =>
        cases hhead
        have hne : further ≠ [] := by
          intro hnil
          simp [hnil] at htwo
        have hle := hopened.length_le hchain hne
        simp only [List.length_cons, List.length_nil] at hle ⊢
        omega

end Opened

theorem Trail.exists_expand {source : Source}
    (hcomposable : site.Composable files channel flags maxDepth root)
    (htrail : site.Trail files channel flags root chain source)
    (hread : files.readText source.full = .ok content) :
    ∃ text, (site.nesting files channel flags maxDepth).expand chain content = .ok text := by
  induction hroom : maxDepth - chain.length using Nat.strongRecOn
      generalizing chain source content with
  | _ room ih =>
      simp only [Catalogue.Nesting.expand_eq_ok_iff]
      refine Markup.Replaced.exists_iff.mpr fun word hword => ?_
      have hmem := Markup.mem_directives.mpr hword
      obtain ⟨directive, hparse, loaded, hloaded⟩ :=
        hcomposable.resolved _ htrail.reaches _ hread word hmem
      have hload := loadTemplate_eq_ok_iff.mpr hloaded
      rcases loadTemplate_eq_ok_iff_locate.mp hload with
        ⟨next, inside, hlocate, hinside, rfl⟩ | ⟨path, -, rfl⟩
      · have hfile := isFile_of_locate hlocate
        have hincludes : site.Includes files channel flags source.full next.full :=
          ⟨content, hread, word, hmem, directive, hparse, next, hlocate, rfl⟩
        have hbarred : (site.nesting files channel flags maxDepth).isBarred chain next = false :=
          htrail.not_isBarred hcomposable hfile hincludes rfl
        have hlt := Catalogue.Nesting.room_lt_of_free hbarred
        obtain ⟨text, hexpand⟩ :=
          ih _ (hroom ▸ hlt) (htrail.step hfile hincludes) hinside rfl
        exact ⟨text, Catalogue.Nesting.place_eq_ok_iff.mpr
          ⟨directive, _, hparse, hload, .inr ⟨next, rfl, hbarred, hexpand⟩⟩⟩
      · exact ⟨[], Catalogue.Nesting.place_eq_ok_iff.mpr
          ⟨directive, _, hparse, hload, .inl ⟨rfl, rfl⟩⟩⟩

/-- An entry before and after its template is expanded. The text it begins with is that of its
file, and there is none where the channel has no variant. -/
structure Composed (site : Site) (files : FileTree) (channel : Channel) (flags : List Text)
    (before after : Partial) : Prop where
  source : after.source = before.source
  data : after.data = before.data
  text : ∀ file, before.source = some file → files.readText file.full = .ok before.content
  vacant : before.source = none → before.content = []
  content : site.Unfolds files channel flags (Markup.tokens before.content) after.content

variable {name : Text} {entry : Partial}

theorem text_of_loadTemplate
    (hload : site.loadTemplate files channel name = .ok ⟨entry.source, entry.content⟩) :
    (∀ file, entry.source = some file →
      files.isFile file.full = true ∧ files.readText file.full = .ok entry.content) ∧
      (entry.source = none → entry.content = []) := by
  rcases loadTemplate_eq_ok_iff_locate.mp hload with
    ⟨source, content, hlocate, hread, heq⟩ | ⟨path, -, heq⟩
  · obtain ⟨hsource, hcontent⟩ := Loaded.mk.inj heq
    rw [hsource, hcontent]
    refine ⟨fun file hfile => ?_, fun hnone => absurd hnone (Option.some_ne_none _)⟩
    cases hfile
    exact ⟨isFile_of_locate hlocate, hread⟩
  · obtain ⟨hsource, hcontent⟩ := Loaded.mk.inj heq
    rw [hsource, hcontent]
    exact ⟨fun file hfile => absurd hfile.symm (Option.some_ne_none _), fun _ => rfl⟩

theorem composed_of_expandEntry
    (hload : site.loadTemplate files channel name = .ok ⟨entry.source, entry.content⟩)
    (hok : (Catalogue.expandEntry (site.nesting files channel flags maxDepth) entry).1 = .ok ()) :
    site.Composed files channel flags entry
      (Catalogue.expandEntry (site.nesting files channel flags maxDepth) entry).2 := by
  obtain ⟨htext, hvacant⟩ := text_of_loadTemplate hload
  unfold Catalogue.expandEntry at hok ⊢
  split at hok
  · next content hexpand =>
      exact ⟨rfl, rfl, fun file hfile => (htext file hfile).2, hvacant,
        unfolds_of_expand hexpand⟩
  · cases hok

theorem expandEntry_ok_iff
    (hload : site.loadTemplate files channel name = .ok ⟨entry.source, entry.content⟩) :
    (Catalogue.expandEntry (site.nesting files channel flags maxDepth) entry).1 = .ok () ↔
      ∀ file, entry.source = some file →
        site.Composable files channel flags maxDepth file.full := by
  obtain ⟨htext, hvacant⟩ := text_of_loadTemplate hload
  constructor
  · intro hok file hfile
    unfold Catalogue.expandEntry at hok
    rw [hfile, Option.toList_some] at hok
    split at hok
    · next text hexpand =>
        have hopened : site.Opened files channel flags maxDepth [file] file.full :=
          ⟨⟨file, List.mem_cons_self, rfl⟩, _, text, (htext file hfile).2, hexpand⟩
        exact hopened.composable
    · cases hok
  · intro hcomposable
    have hexpand : ∃ text, (site.nesting files channel flags maxDepth).expand
        entry.source.toList entry.content = .ok text := by
      cases hsource : entry.source with
      | none =>
          rw [hvacant hsource]
          exact ⟨[], Catalogue.Nesting.expand_eq_ok_iff.mpr .nil⟩
      | some file =>
          obtain ⟨hfile, hread⟩ := htext file hsource
          exact (Trail.start hfile rfl).exists_expand (hcomposable file hsource) hread
    obtain ⟨text, hexpand⟩ := hexpand
    unfold Catalogue.expandEntry
    rw [hexpand]

theorem expandEntry_eq_of_le {deeper : Nat} (hle : maxDepth ≤ deeper)
    (hload : site.loadTemplate files channel name = .ok ⟨entry.source, entry.content⟩)
    (hok : (Catalogue.expandEntry (site.nesting files channel flags maxDepth) entry).1 = .ok ()) :
    Catalogue.expandEntry (site.nesting files channel flags deeper) entry =
      Catalogue.expandEntry (site.nesting files channel flags maxDepth) entry := by
  have hdeeper : (Catalogue.expandEntry (site.nesting files channel flags deeper) entry).1 =
      .ok () := by
    rw [expandEntry_ok_iff hload] at hok ⊢
    exact fun file hfile => (hok file hfile).mono hle
  have hcomposed := composed_of_expandEntry hload hok
  have hcomposed' := composed_of_expandEntry hload hdeeper
  refine Prod.ext (hdeeper.trans hok.symm) ?_
  rcases hafter : (Catalogue.expandEntry (site.nesting files channel flags maxDepth) entry).2
    with ⟨source, content, data⟩
  rcases hafter' : (Catalogue.expandEntry (site.nesting files channel flags deeper) entry).2
    with ⟨source', content', data'⟩
  rw [hafter] at hcomposed
  rw [hafter'] at hcomposed'
  rw [Partial.mk.injEq]
  exact ⟨hcomposed'.source.trans hcomposed.source.symm,
    hcomposed'.content.unique hcomposed.content, hcomposed'.data.trans hcomposed.data.symm⟩

end Site

namespace Catalogue

variable {site : Site} {files : FileTree} {channel : Channel} {flags : List Text}
  {body : Text} {count maxDepth : Nat} {catalogue : Catalogue}

theorem loadTemplate_of_gather
    (hgather : gather flags (load site files channel) body [] = (.ok count, catalogue))
    {key : Text} {entry : Partial} (hmem : (key, entry) ∈ catalogue) :
    ∃ name, site.loadTemplate files channel name = .ok ⟨entry.source, entry.content⟩ := by
  obtain ⟨text, -, directive, -, -, hload⟩ := gather_faithful hgather key entry hmem
  exact ⟨_, (load_eq_ok_iff.mp hload).2⟩

theorem expand_singleton {nesting : Nesting} {key text : Text} {entry : Partial}
    (hexpand : nesting.expand entry.source.toList entry.content = .ok text) :
    expand nesting [(key, entry)] = (.ok (), [(key, { entry with content := text })]) := by
  simp only [expand, Dict.sweep, expandEntry, hexpand]

theorem composed_of_mem
    (hgather : gather flags (load site files channel) body [] = (.ok count, catalogue))
    {key : Text} {entry : Partial} (hmem : (key, entry) ∈ catalogue)
    (hok : (expandEntry (site.nesting files channel flags maxDepth) entry).1 = .ok ()) :
    site.Composed files channel flags entry
      (expandEntry (site.nesting files channel flags maxDepth) entry).2 := by
  obtain ⟨name, hload⟩ := loadTemplate_of_gather hgather hmem
  exact Site.composed_of_expandEntry hload hok

/-- Expansion succeeds just if nothing that any entry's file can reach includes itself, is missing
or lies too deep. Each text is then unfolded in full, under its key and with its source and data,
and a greater depth would have made no difference. -/
theorem expand_ok_iff_composable (maxDepth : Nat)
    (hgather : gather flags (load site files channel) body [] = (.ok count, catalogue)) :
    ((expand (site.nesting files channel flags maxDepth) catalogue).1 = .ok () ↔
      ∀ key entry, (key, entry) ∈ catalogue → ∀ file, entry.source = some file →
        site.Composable files channel flags maxDepth file.full) ∧
    ((expand (site.nesting files channel flags maxDepth) catalogue).1 = .ok () →
      List.Forall₂
        (fun before after => after.1 = before.1 ∧
          site.Composed files channel flags before.2 after.2)
        catalogue (expand (site.nesting files channel flags maxDepth) catalogue).2 ∧
      ∀ deeper, maxDepth ≤ deeper →
        expand (site.nesting files channel flags deeper) catalogue =
          expand (site.nesting files channel flags maxDepth) catalogue) := by
  have hiff : (expand (site.nesting files channel flags maxDepth) catalogue).1 = .ok () ↔
      ∀ key entry, (key, entry) ∈ catalogue →
        (expandEntry (site.nesting files channel flags maxDepth) entry).1 = .ok () :=
    Dict.sweep_fst_eq_ok_iff _ _
  refine ⟨hiff.trans ?_, fun hok => ⟨?_, fun deeper hle => ?_⟩⟩
  · refine forall_congr' fun key => forall_congr' fun entry => forall_congr' fun hmem => ?_
    obtain ⟨name, hload⟩ := loadTemplate_of_gather hgather hmem
    exact Site.expandEntry_ok_iff hload
  · rw [expand, Dict.sweep_snd_of_ok hok]
    exact List.forall₂_map_right_iff.mpr (List.forall₂_same.mpr fun entry hmem =>
      ⟨rfl, composed_of_mem hgather hmem (hiff.mp hok entry.1 entry.2 hmem)⟩)
  · have hsame : ∀ key entry, (key, entry) ∈ catalogue →
        expandEntry (site.nesting files channel flags deeper) entry =
          expandEntry (site.nesting files channel flags maxDepth) entry := by
      intro key entry hmem
      obtain ⟨name, hload⟩ := loadTemplate_of_gather hgather hmem
      exact Site.expandEntry_eq_of_le hle hload (hiff.mp hok key entry hmem)
    exact Dict.sweep_congr hsame

def twice : FileTree :=
  Site.small.tree [("a.html", "x{{> b}}{{> b}}"), ("b.html", "y")]

def twice.entry : Partial :=
  ⟨some ⟨['r'], "a.html".toList⟩, "x{{> b}}{{> b}}".toList, none⟩

theorem composable_of_twice_included :
    Site.Composable .small twice ⟨[]⟩ [] 2 "r/a.html".toList := by
  have hgather : gather [] (load .small twice ⟨[]⟩) "{{> a}}".toList [] =
      (.ok 1, [(['a'], twice.entry)]) := by rfl
  have hinner : (Site.nesting .small twice ⟨[]⟩ [] 2).expand
      [⟨['r'], "a.html".toList⟩, ⟨['r'], "b.html".toList⟩] ['y'] = .ok ['y'] :=
    Nesting.expand_eq_ok_iff.mpr (.char 'y' .nil)
  have hplace : (Site.nesting .small twice ⟨[]⟩ [] 2).place
      [⟨['r'], "a.html".toList⟩] "{{> b}}".toList = .ok ['y'] := hinner
  have houter : (Site.nesting .small twice ⟨[]⟩ [] 2).expand
      [⟨['r'], "a.html".toList⟩] "x{{> b}}{{> b}}".toList = .ok "xyy".toList := by
    rw [Nesting.expand_eq]
    change Markup.replaceTokens _
      [.char 'x', .directive "{{> b}}".toList, .directive "{{> b}}".toList] = _
    simp only [Markup.replaceTokens, hplace]
    rfl
  have hexpand : (expand (Site.nesting .small twice ⟨[]⟩ [] 2)
      [(['a'], twice.entry)]).1 = .ok () := by
    rw [expand_singleton houter]
  exact (expand_ok_iff_composable 2 hgather).1.mp hexpand _ _ List.mem_cons_self _ rfl

end Catalogue

end Transclusion
