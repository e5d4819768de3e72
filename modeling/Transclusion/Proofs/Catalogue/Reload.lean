import Mathlib.Data.Set.Card
import Transclusion.Proofs.Catalogue.Gathered
import Transclusion.Proofs.Markup.Word

namespace Transclusion.Catalogue

/-! Loading the directives of a page into a catalogue that may have entries already: what is loaded,
what is used again, and how far loading has come where it fails. -/

variable {flags : List Text} {load : Directive → Except Failure Partial} {texts : List Text}
  {before after : Catalogue} {count : Nat} {key text : Text} {directive : Directive}
  {failure : Failure}

def asking (flags texts : List Text) (key : Text) : Set Directive :=
  {directive | directive.key = key ∧ ∃ text ∈ texts, parse flags text = .ok directive}

def Flagged (flags texts : List Text) (key : Text) : Prop :=
  ∃ directive ∈ asking flags texts key, directive.flags ≠ []

/-- Behind the earlier ones, the directive is loaded: it has a flag, or it is the first with a key
that has no entry. -/
def Due (flags : List Text) (before : Catalogue) (earlier : List Text) (directive : Directive) :
    Prop :=
  directive.flags ≠ [] ∨
    (Dict.find? before directive.key = none ∧ asking flags earlier directive.key = ∅)

def dueAt (flags : List Text) (before : Catalogue) (texts : List Text) : Set Nat :=
  {place | ∃ text directive, texts[place]? = some text ∧ parse flags text = .ok directive ∧
    Due flags before (texts.take place) directive}

theorem isDue_eq_true_iff {catalogue : Catalogue} :
    isDue catalogue directive = true ↔
      Dict.find? catalogue directive.key = none ∨ directive.flags ≠ [] := by
  rw [isDue, Bool.or_eq_true, Bool.not_eq_true', Dict.contains, Option.isSome_eq_false_iff,
    Option.isNone_iff_eq_none]
  simp [Directive.isFlagged]

theorem mem_asking (hmem : text ∈ texts) (hparse : parse flags text = .ok directive) :
    directive ∈ asking flags texts directive.key :=
  ⟨rfl, text, hmem, hparse⟩

theorem wanted_iff :
    Wanted flags texts before key ↔
      (Dict.find? before key = none ∧ (asking flags texts key).Nonempty) ∨
        Flagged flags texts key := by
  unfold Wanted
  constructor
  · rintro ⟨text, hmem, directive, hparse, rfl, hdue⟩
    have hasking := mem_asking hmem (parse_eq_ok_iff.mpr hparse)
    rcases isDue_eq_true_iff.mp hdue with hnone | hflagged
    · exact .inl ⟨hnone, directive, hasking⟩
    · exact .inr ⟨directive, hasking, hflagged⟩
  · rintro (⟨hnone, directive, rfl, text, hmem, hparse⟩ |
      ⟨directive, ⟨rfl, text, hmem, hparse⟩, hflagged⟩)
    all_goals refine ⟨text, hmem, directive, parse_eq_ok_iff.mp hparse, rfl, ?_⟩
    · exact isDue_eq_true_iff.mpr (.inl hnone)
    · exact isDue_eq_true_iff.mpr (.inr hflagged)

theorem find?_gatherEach_eq_none_iff
    (hgather : gatherEach flags load texts before = (.ok count, after)) :
    Dict.find? after key = none ↔
      Dict.find? before key = none ∧ asking flags texts key = ∅ := by
  rw [Set.eq_empty_iff_forall_notMem]
  constructor
  · intro hnone
    refine ⟨?_, fun directive hasking => ?_⟩
    · rw [← Option.not_isSome_iff_eq_none] at hnone ⊢
      exact fun hbefore => hnone (contains_of_gatherEach hgather hbefore)
    · obtain ⟨rfl, text, hmem, hparse⟩ := hasking
      obtain ⟨other, hother, hcontains⟩ := exists_contains_of_gatherEach hgather text hmem
      cases (parse_eq_ok_iff.mp hparse).symm.trans hother
      rw [Dict.contains, hnone] at hcontains
      cases hcontains
  · rintro ⟨hnone, hempty⟩
    rw [(find?_gatherEach hgather key).1, hnone]
    rw [wanted_iff]
    rintro (⟨-, directive, hasking⟩ | ⟨directive, hasking, -⟩)
    all_goals exact hempty directive hasking

theorem isDue_iff_due (hgather : gatherEach flags load texts before = (.ok count, after)) :
    isDue after directive = true ↔ Due flags before texts directive := by
  rw [isDue_eq_true_iff, find?_gatherEach_eq_none_iff hgather, or_comm, Due]

theorem lt_length_of_mem_dueAt {place : Nat} (hmem : place ∈ dueAt flags before texts) :
    place < texts.length := by
  obtain ⟨text, directive, hplace, -⟩ := hmem
  exact (List.getElem?_eq_some_iff.mp hplace).1

theorem finite_dueAt : (dueAt flags before texts).Finite := by
  apply (Set.finite_lt_nat texts.length).subset
  intro place hmem
  exact lt_length_of_mem_dueAt hmem

theorem mem_dueAt_concat {place : Nat} (hparse : parse flags text = .ok directive) :
    place ∈ dueAt flags before (texts ++ [text]) ↔
      (place = texts.length ∧ Due flags before texts directive) ∨
        place ∈ dueAt flags before texts := by
  unfold dueAt
  rw [Set.mem_ofPred_eq, Set.mem_ofPred_eq]
  rcases lt_trichotomy place texts.length with hlt | rfl | hgt
  · rw [List.getElem?_append_left hlt, List.take_append_of_le_length hlt.le]
    simp [hlt.ne]
  · simp [hparse]
  · have hnone : (texts ++ [text])[place]? = none := by
      rw [List.getElem?_eq_none_iff, List.length_append, List.length_singleton]
      omega
    simp [hnone, hgt.ne', List.getElem?_eq_none_iff.mpr hgt.le]

theorem count_gatherEach (hgather : gatherEach flags load texts before = (.ok count, after)) :
    count = (dueAt flags before texts).ncard := by
  -- Whether a directive is due depends on those ahead of it: the induction takes the last one off.
  induction texts using List.reverseRecOn generalizing count after with
  | nil =>
      cases hgather
      have hempty : dueAt flags before [] = ∅ := by
        rw [Set.eq_empty_iff_forall_notMem]
        exact fun place hmem => absurd (lt_length_of_mem_dueAt hmem) (Nat.not_lt_zero place)
      rw [hempty, Set.ncard_empty]
  | append_singleton texts text ih =>
      obtain ⟨first, middle, directive, hfirst, hparse, hlast⟩ := gatherEach_concat_eq_ok hgather
      rw [← parse_eq_ok_iff] at hparse
      have hconcat := fun place => @mem_dueAt_concat flags texts before text directive place hparse
      rw [← Bool.not_eq_true, isDue_iff_due hfirst] at hlast
      rcases hlast with ⟨hdue, rfl⟩ | ⟨hnot, rfl⟩
      · have hnew : texts.length ∉ dueAt flags before texts :=
          fun hmem => lt_irrefl _ (lt_length_of_mem_dueAt hmem)
        have hinsert : dueAt flags before (texts ++ [text]) =
            insert texts.length (dueAt flags before texts) := by
          ext place
          rw [hconcat, and_iff_left hdue, Set.mem_insert_iff]
        rw [hinsert, Set.ncard_insert_of_notMem hnew finite_dueAt, ← ih hfirst]
      · have hsame : dueAt flags before (texts ++ [text]) = dueAt flags before texts := by
          ext place
          rw [hconcat, or_iff_right fun hhere => hnot hhere.2]
        rw [hsame, ih hfirst]

section Site

variable {site : Site} {files : FileTree} {channel : Channel} {earlier : List Text} {body : Text}

structure Fresh (site : Site) (files : FileTree) (channel : Channel) (directive : Directive)
    (entry : Partial) : Prop where
  data : site.HasData files channel directive.dataRef entry.data
  template : site.HasTemplate files channel directive.templateRef ⟨entry.source, entry.content⟩

theorem load_eq_ok_iff_fresh {entry : Partial} :
    Catalogue.load site files channel directive = .ok entry ↔
      Fresh site files channel directive entry := by
  rw [load_eq_ok_iff, Site.loadData_eq_ok_iff, Site.loadTemplate_eq_ok_iff]
  exact ⟨fun ⟨hdata, htemplate⟩ => ⟨hdata, htemplate⟩, fun hfresh => ⟨hfresh.1, hfresh.2⟩⟩

structure Reloaded (site : Site) (files : FileTree) (channel : Channel) (flags : List Text)
    (before : Catalogue) (texts : List Text) (after : Catalogue) : Prop where
  parsed : ∀ text ∈ texts, ∃ directive, parse flags text = .ok directive
  loaded : ∀ key, ∀ directive ∈ asking flags texts key,
    Dict.find? before key = none ∨ Flagged flags texts key →
      ∃ entry, Fresh site files channel directive entry ∧ Dict.find? after key = some entry
  reused : ∀ key entry, Dict.find? before key = some entry → ¬ Flagged flags texts key →
    Dict.find? after key = some entry
  others : ∀ key, asking flags texts key = ∅ → Dict.find? after key = Dict.find? before key

theorem reloaded_of_gatherEach
    (hgather : gatherEach flags (Catalogue.load site files channel) texts before =
      (.ok count, after)) :
    Reloaded site files channel flags before texts after where
  parsed text hmem := by
    obtain ⟨directive, hparse, -⟩ := exists_contains_of_gatherEach hgather text hmem
    exact ⟨directive, parse_eq_ok_iff.mpr hparse⟩
  loaded key directive hasking hdue := by
    have hwanted : Wanted flags texts before key := by
      rw [wanted_iff]
      exact hdue.imp_left fun hnone => ⟨hnone, directive, hasking⟩
    obtain ⟨rfl, text, -, hparse⟩ := hasking
    obtain ⟨_, -, other, entry, hother, hkey, hload, hfind⟩ :=
      (find?_gatherEach hgather directive.key).2 hwanted
    refine ⟨entry, ?_, hfind⟩
    rw [← load_eq_ok_iff_fresh, load_eq_of_key_eq (parse_eq_ok_iff.mp hparse) hother hkey.symm]
    exact hload
  reused key entry hfind hnot := by
    rw [(find?_gatherEach hgather key).1, hfind]
    rw [wanted_iff, hfind]
    rintro (⟨hnone, -⟩ | hflagged)
    · cases hnone
    · exact hnot hflagged
  others key hempty := by
    rw [(find?_gatherEach hgather key).1]
    rw [wanted_iff, Flagged, hempty]
    rintro (⟨-, hnonempty⟩ | ⟨directive, hmem, -⟩)
    · exact Set.not_nonempty_empty hnonempty
    · exact hmem

/-- The directive cannot be read, or it is to be loaded and its data or its template cannot. -/
inductive Thwarted (site : Site) (files : FileTree) (channel : Channel) (flags : List Text)
    (before : Catalogue) (earlier : List Text) (text : Text) : Failure → Prop where
  | malformed (unread : parse flags text = .error (.malformed text)) :
      Thwarted site files channel flags before earlier text (.malformed text)
  | data {directive : Directive} {failure : Failure} (parsed : parse flags text = .ok directive)
      (due : Due flags before earlier directive)
      (refused : site.loadData files channel directive.dataRef = .error failure) :
      Thwarted site files channel flags before earlier text failure
  | template {directive : Directive} {failure : Failure} {data : Option Data}
      (parsed : parse flags text = .ok directive) (due : Due flags before earlier directive)
      (held : site.HasData files channel directive.dataRef data)
      (refused : site.loadTemplate files channel directive.templateRef = .error failure) :
      Thwarted site files channel flags before earlier text failure

theorem Reloaded.exists_fresh (hreloaded : Reloaded site files channel flags before texts after)
    (hmem : text ∈ texts) (hparse : parse flags text = .ok directive)
    (hdue : Due flags before earlier directive) :
    ∃ entry, Fresh site files channel directive entry := by
  have hasking := mem_asking hmem hparse
  obtain ⟨entry, hfresh, -⟩ := hreloaded.loaded directive.key directive hasking
    (hdue.symm.imp And.left fun hflagged => ⟨directive, hasking, hflagged⟩)
  exact ⟨entry, hfresh⟩

theorem Reloaded.not_thwarted (hreloaded : Reloaded site files channel flags before texts after)
    (hmem : text ∈ texts) : ¬ Thwarted site files channel flags before earlier text failure := by
  intro hthwarted
  cases hthwarted with
  | malformed unread =>
      obtain ⟨directive, hparse⟩ := hreloaded.parsed text hmem
      cases hparse.symm.trans unread
  | data parsed due refused =>
      obtain ⟨entry, hfresh⟩ := hreloaded.exists_fresh hmem parsed due
      cases (Site.loadData_eq_ok_iff.mpr hfresh.data).symm.trans refused
  | template parsed due held refused =>
      obtain ⟨entry, hfresh⟩ := hreloaded.exists_fresh hmem parsed due
      cases (Site.loadTemplate_eq_ok_iff.mpr hfresh.template).symm.trans refused

/-- What comes of loading the directives of a page. When it fails, that is at the first of them that
is thwarted, and the catalogue is what the part of the page ahead of it makes of it. -/
inductive Loads (site : Site) (files : FileTree) (channel : Channel) (flags : List Text)
    (before : Catalogue) (body : Text) : Except Failure Nat → Catalogue → Prop where
  | ok {after : Catalogue}
      (reloaded : Reloaded site files channel flags before (Markup.directives body) after) :
      Loads site files channel flags before body
        (.ok (dueAt flags before (Markup.directives body)).ncard) after
  | error {front text back : Text} {later : List Text} {after : Catalogue} {failure : Failure}
      (cut : body = front ++ (text ++ back))
      (split : Markup.directives body = Markup.directives front ++ text :: later)
      (loaded : gather flags (Catalogue.load site files channel) front before =
        (.ok (dueAt flags before (Markup.directives front)).ncard, after))
      (reloaded : Reloaded site files channel flags before (Markup.directives front) after)
      (first : ∀ earlier other behind failure,
        Markup.directives front = earlier ++ other :: behind →
          ¬ Thwarted site files channel flags before earlier other failure)
      (thwarted : Thwarted site files channel flags before (Markup.directives front) text
        failure) :
      Loads site files channel flags before body (.error failure) after

theorem thwarted_of_gatherEach
    (hgather : gatherEach flags (Catalogue.load site files channel) earlier before =
      (.ok count, after))
    (hfail : (Directive.parse? flags text = none ∧ failure = .malformed text) ∨
      ∃ directive, Directive.parse? flags text = some directive ∧
        isDue after directive = true ∧
          Catalogue.load site files channel directive = .error failure) :
    Thwarted site files channel flags before earlier text failure := by
  rcases hfail with ⟨hnone, rfl⟩ | ⟨directive, hparse, hdue, hload⟩
  · exact .malformed (parse_eq_error_iff.mpr ⟨hnone, rfl⟩)
  · rw [← parse_eq_ok_iff] at hparse
    rw [isDue_iff_due hgather] at hdue
    rcases load_eq_error hload with hrefused | ⟨⟨data, hdata⟩, hrefused⟩
    · exact .data hparse hdue hrefused
    · exact .template hparse hdue (Site.loadData_eq_ok_iff.mp hdata) hrefused

/-- An entry that is there is used again, unless a flag asks for it anew. -/
theorem gather_reloads (site : Site) (files : FileTree) (channel : Channel) (flags : List Text)
    (before : Catalogue) (body : Text) :
    Loads site files channel flags before body
      (gather flags (Catalogue.load site files channel) body before).1
      (gather flags (Catalogue.load site files channel) body before).2 := by
  rcases hgather : gather flags (Catalogue.load site files channel) body before with ⟨outcome, after⟩
  cases outcome with
  | ok count =>
      rw [count_gatherEach hgather]
      exact .ok (reloaded_of_gatherEach hgather)
  | error failure =>
      obtain ⟨earlier, text, later, count, htexts, hearlier, hfail⟩ := gatherEach_eq_error hgather
      obtain ⟨front, back, hcut, rfl⟩ := Markup.exists_front htexts
      have hreloaded := reloaded_of_gatherEach hearlier
      refine .error hcut htexts ?_ hreloaded ?_ (thwarted_of_gatherEach hearlier hfail)
      · rw [gather, hearlier, count_gatherEach hearlier]
      · intro earlier other behind failure hfront
        apply hreloaded.not_thwarted
        rw [hfront]
        exact List.mem_append_right _ List.mem_cons_self

end Site

end Transclusion.Catalogue
