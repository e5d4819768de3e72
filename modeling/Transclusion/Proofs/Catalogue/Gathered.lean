import Transclusion.Catalogue.Gather
import Transclusion.Proofs.Catalogue.Sweep
import Transclusion.Proofs.Dict.Order
import Transclusion.Proofs.Directive.Key
import Transclusion.Proofs.Site.Holding

namespace Transclusion.Catalogue

/-! Where the entries of a catalogue come from. -/

variable {flags : List Text} {load : Directive → Except Failure Partial} {all texts : List Text}
  {catalogue gathered : Catalogue} {count : Nat} {key : Text} {entry : Partial}

/-- Every entry is what one of the directives stands for, under the key of that directive. -/
def Faithful (flags : List Text) (load : Directive → Except Failure Partial) (texts : List Text)
    (catalogue : Catalogue) : Prop :=
  ∀ key entry, (key, entry) ∈ catalogue →
    ∃ text ∈ texts, ∃ directive, Directive.parse? flags text = some directive ∧
      directive.key = key ∧ load directive = .ok entry

theorem parse_eq_ok_iff {text : Text} {directive : Directive} :
    parse flags text = .ok directive ↔ Directive.parse? flags text = some directive := by
  unfold parse
  split <;> simp_all

theorem parse_eq_error_iff {text : Text} {failure : Failure} :
    parse flags text = .error failure ↔
      Directive.parse? flags text = none ∧ failure = .malformed text := by
  unfold parse
  cases Directive.parse? flags text with
  | none => simp [eq_comm]
  | some directive => simp

theorem Faithful.insert {text : Text} {directive : Directive}
    (hfaithful : Faithful flags load all catalogue) (hmem : text ∈ all)
    (hparse : Directive.parse? flags text = some directive)
    (hload : load directive = .ok entry) :
    Faithful flags load all (Dict.insert catalogue directive.key entry) := by
  intro key' entry' hentry
  rcases Dict.mem_insert hentry with heq | hentry
  · cases heq
    exact ⟨text, hmem, directive, hparse, rfl, hload⟩
  · exact hfaithful key' entry' hentry

theorem contains_of_insert {other : Text} (hcontains : Dict.contains catalogue key = true) :
    Dict.contains (Dict.insert catalogue other entry) key = true := by
  rw [Dict.contains_insert, hcontains, Bool.or_true]

theorem gatherEach_cons_eq_ok_iff {text : Text} :
    gatherEach flags load (text :: texts) catalogue = (.ok count, gathered) ↔
      ∃ directive, Directive.parse? flags text = some directive ∧
        ((isDue catalogue directive = true ∧ ∃ entry rest, load directive = .ok entry ∧
            count = rest + 1 ∧
            gatherEach flags load texts (Dict.insert catalogue directive.key entry) =
              (.ok rest, gathered)) ∨
          (isDue catalogue directive = false ∧
            gatherEach flags load texts catalogue = (.ok count, gathered))) := by
  constructor
  · intro hgather
    simp only [gatherEach] at hgather
    split at hgather
    · cases hgather
    · next directive hdirective =>
        refine ⟨directive, parse_eq_ok_iff.mp hdirective, ?_⟩
        split at hgather
        · next hdue =>
            split at hgather
            · cases hgather
            · next entry hload =>
                rcases hrest : gatherEach flags load texts
                  (Dict.insert catalogue directive.key entry) with ⟨outcome, after⟩
                rw [hrest] at hgather
                cases outcome with
                | error failure => cases hgather
                | ok rest =>
                    cases hgather
                    exact .inl ⟨hdue, entry, rest, hload, rfl, hrest⟩
        · next hdue => exact .inr ⟨by simpa using hdue, hgather⟩
  · rintro ⟨directive, hparse, ⟨hdue, entry, rest, hload, rfl, hrest⟩ | ⟨hdue, hrest⟩⟩
    · simp only [gatherEach, parse_eq_ok_iff.mpr hparse, hdue, hload, hrest, if_true]
      rfl
    · simp only [gatherEach, parse_eq_ok_iff.mpr hparse, hdue, Bool.false_eq_true, if_false]
      exact hrest

theorem gatherEach_concat_eq_ok {text : Text}
    (hgather : gatherEach flags load (texts ++ [text]) catalogue = (.ok count, gathered)) :
    ∃ first middle directive, gatherEach flags load texts catalogue = (.ok first, middle) ∧
      Directive.parse? flags text = some directive ∧
        ((isDue middle directive = true ∧ count = first + 1) ∨
          (isDue middle directive = false ∧ count = first)) := by
  induction texts generalizing catalogue count with
  | nil =>
      obtain ⟨directive, hparse, ⟨hdue, entry, rest, -, rfl, hrest⟩ | ⟨hdue, hrest⟩⟩ :=
        gatherEach_cons_eq_ok_iff.mp hgather
      all_goals
        cases hrest
        refine ⟨0, _, directive, rfl, hparse, ?_⟩
      · exact .inl ⟨hdue, rfl⟩
      · exact .inr ⟨hdue, rfl⟩
  | cons other texts ih =>
      rw [List.cons_append, gatherEach_cons_eq_ok_iff] at hgather
      obtain ⟨rival, hother, ⟨hdue, entry, rest, hload, rfl, hrest⟩ | ⟨hdue, hrest⟩⟩ := hgather
      · obtain ⟨first, middle, directive, hfirst, hparse, hlast⟩ := ih hrest
        refine ⟨first + 1, middle, directive, ?_, hparse, ?_⟩
        · rw [gatherEach_cons_eq_ok_iff]
          exact ⟨rival, hother, .inl ⟨hdue, entry, first, hload, rfl, hfirst⟩⟩
        · simpa only [Nat.add_right_cancel_iff] using hlast
      · obtain ⟨first, middle, directive, hfirst, hparse, hlast⟩ := ih hrest
        refine ⟨first, middle, directive, ?_, hparse, hlast⟩
        rw [gatherEach_cons_eq_ok_iff]
        exact ⟨rival, hother, .inr ⟨hdue, hfirst⟩⟩

/-- What holds of a catalogue at first and stays as directives are loaded, holds of it in the end,
wherever loading ends. -/
theorem gatherEach_keeps {keeps : Catalogue → Prop} {outcome : Except Failure Nat}
    (hgather : gatherEach flags load texts catalogue = (outcome, gathered))
    (hinsert : ∀ text ∈ texts, ∀ directive entry catalogue,
      Directive.parse? flags text = some directive → load directive = .ok entry →
        keeps catalogue → keeps (Dict.insert catalogue directive.key entry))
    (hstart : keeps catalogue) : keeps gathered := by
  induction texts generalizing catalogue outcome with
  | nil =>
      cases hgather
      exact hstart
  | cons text texts ih =>
      have hbehind := fun other hother => hinsert other (List.mem_cons_of_mem text hother)
      simp only [gatherEach] at hgather
      split at hgather
      · cases hgather
        exact hstart
      · next directive hdirective =>
          split at hgather
          · split at hgather
            · cases hgather
              exact hstart
            · next entry hload =>
                cases hgather
                apply ih rfl hbehind
                exact hinsert text List.mem_cons_self directive entry catalogue
                  (parse_eq_ok_iff.mp hdirective) hload hstart
          · exact ih hgather hbehind hstart

theorem contains_of_gatherEach {outcome : Except Failure Nat}
    (hgather : gatherEach flags load texts catalogue = (outcome, gathered))
    (hcontains : Dict.contains catalogue key = true) : Dict.contains gathered key = true := by
  have hkeeps := @gatherEach_keeps _ _ _ _ _ (fun later => Dict.contains later key = true) _ hgather
  apply hkeeps
  · intro text _ directive entry later _ _ hlater
    exact contains_of_insert hlater
  · exact hcontains

theorem exists_contains_of_gatherEach
    (hgather : gatherEach flags load texts catalogue = (.ok count, gathered)) :
    ∀ text ∈ texts, ∃ directive, Directive.parse? flags text = some directive ∧
      Dict.contains gathered directive.key = true := by
  induction texts generalizing catalogue count with
  | nil => exact fun _ hmem => absurd hmem List.not_mem_nil
  | cons text texts ih =>
      intro other hother
      obtain ⟨directive, hparse, ⟨-, entry, rest, -, -, hrest⟩ | ⟨hdue, hrest⟩⟩ :=
        gatherEach_cons_eq_ok_iff.mp hgather
      · rcases List.mem_cons.mp hother with rfl | hother
        · have hhere :
              Dict.contains (Dict.insert catalogue directive.key entry) directive.key = true := by
            rw [Dict.contains_insert, beq_self_eq_true, Bool.true_or]
          exact ⟨directive, hparse, contains_of_gatherEach hrest hhere⟩
        · exact ih hrest other hother
      · rcases List.mem_cons.mp hother with rfl | hother
        · simp only [isDue, Bool.or_eq_false_iff, Bool.not_eq_false'] at hdue
          exact ⟨directive, hparse, contains_of_gatherEach hrest hdue.1⟩
        · exact ih hrest other hother

theorem gatherEach_faithful (hsubset : ∀ text ∈ texts, text ∈ all)
    (hfaithful : Faithful flags load all catalogue)
    (hgather : gatherEach flags load texts catalogue = (.ok count, gathered)) :
    Faithful flags load all gathered ∧
      (∀ key, Dict.contains catalogue key = true → Dict.contains gathered key = true) ∧
      ∀ text ∈ texts, ∃ directive, Directive.parse? flags text = some directive ∧
        Dict.contains gathered directive.key = true := by
  refine ⟨?_, fun key => contains_of_gatherEach hgather, exists_contains_of_gatherEach hgather⟩
  refine gatherEach_keeps hgather (fun text hmem directive entry catalogue hparse hload hlater => ?_)
    hfaithful
  exact hlater.insert (hsubset text hmem) hparse hload

theorem exists_gatherEach
    (htexts : ∀ text ∈ texts, ∃ directive entry,
      Directive.parse? flags text = some directive ∧ load directive = .ok entry)
    (catalogue : Catalogue) :
    ∃ count gathered, gatherEach flags load texts catalogue = (.ok count, gathered) := by
  induction texts generalizing catalogue with
  | nil => exact ⟨0, catalogue, rfl⟩
  | cons text texts ih =>
      have hbehind := fun other hother => htexts other (List.mem_cons_of_mem text hother)
      obtain ⟨directive, entry, hparse, hload⟩ := htexts text List.mem_cons_self
      simp only [gatherEach, parse_eq_ok_iff.mpr hparse, hload]
      split
      · obtain ⟨count, gathered, hrest⟩ :=
          ih hbehind (Dict.insert catalogue directive.key entry)
        exact ⟨count + 1, gathered, by rw [hrest]; rfl⟩
      · exact ih hbehind catalogue

/-- A directive with the key is to be loaded, going by what the catalogue holds at first. -/
def Wanted (flags : List Text) (texts : List Text) (catalogue : Catalogue) (key : Text) : Prop :=
  ∃ text ∈ texts, ∃ directive, Directive.parse? flags text = some directive ∧
    directive.key = key ∧ isDue catalogue directive = true

theorem wanted_cons {text : Text} {directive : Directive}
    (hparse : Directive.parse? flags text = some directive) :
    Wanted flags (text :: texts) catalogue key ↔
      (directive.key = key ∧ isDue catalogue directive = true) ∨
        Wanted flags texts catalogue key := by
  unfold Wanted
  simp only [List.exists_mem_cons_iff, hparse, Option.some.injEq, exists_eq_left']

theorem wanted_insert_of_ne {other : Text} (hne : other ≠ key) :
    Wanted flags texts (Dict.insert catalogue other entry) key ↔
      Wanted flags texts catalogue key := by
  unfold Wanted isDue
  refine exists_congr fun text => and_congr_right fun _ => exists_congr fun directive =>
    and_congr_right fun _ => and_congr_right fun hkey => ?_
  have hother : (other == directive.key) = false := by simp [hkey, hne]
  rw [Dict.contains_insert, hother, Bool.false_or]

/-- Only what is wanted is loaded, and in the end what is wanted is as it was loaded. -/
theorem find?_gatherEach
    (hgather : gatherEach flags load texts catalogue = (.ok count, gathered)) (key : Text) :
    (¬ Wanted flags texts catalogue key →
      Dict.find? gathered key = Dict.find? catalogue key) ∧
    (Wanted flags texts catalogue key → ∃ text ∈ texts, ∃ directive entry,
      Directive.parse? flags text = some directive ∧ directive.key = key ∧
        load directive = .ok entry ∧ Dict.find? gathered key = some entry) := by
  induction texts generalizing catalogue count with
  | nil =>
      cases hgather
      exact ⟨fun _ => rfl, fun ⟨_, hmem, _⟩ => absurd hmem List.not_mem_nil⟩
  | cons text texts ih =>
      obtain ⟨directive, hparse, ⟨hdue, entry, rest, hload, -, hrest⟩ | ⟨hdue, hrest⟩⟩ :=
        gatherEach_cons_eq_ok_iff.mp hgather
      all_goals
        obtain ⟨hkept, hloaded⟩ := ih hrest
        rw [wanted_cons hparse, hdue]
      · by_cases hkey : directive.key = key
        · subst hkey
          refine ⟨fun hnot => absurd (.inl ⟨rfl, rfl⟩) hnot, fun _ => ?_⟩
          -- A flag further on may have the same key loaded once more.
          by_cases hlater : Wanted flags texts (Dict.insert catalogue directive.key entry)
            directive.key
          · exact List.exists_mem_cons_of_exists (hloaded hlater)
          · refine ⟨text, List.mem_cons_self, directive, entry, hparse, rfl, hload, ?_⟩
            rw [hkept hlater, Dict.find?_insert_self]
        · rw [wanted_insert_of_ne hkey] at hkept hloaded
          rw [Dict.find?_insert, if_neg hkey] at hkept
          refine ⟨fun hnot => hkept fun hwanted => hnot (.inr hwanted), ?_⟩
          rintro (⟨heq, -⟩ | hwanted)
          · exact absurd heq hkey
          · exact List.exists_mem_cons_of_exists (hloaded hwanted)
      · refine ⟨fun hnot => hkept fun hwanted => hnot (.inr hwanted), ?_⟩
        rintro (⟨-, hfalse⟩ | hwanted)
        · cases hfalse
        · exact List.exists_mem_cons_of_exists (hloaded hwanted)

theorem sorted_gatherEach (hsorted : Dict.Sorted catalogue)
    (hgather : gatherEach flags load texts catalogue = (.ok count, gathered)) :
    Dict.Sorted gathered := by
  refine gatherEach_keeps hgather (fun _ _ directive entry _ _ _ hlater => ?_) hsorted
  exact hlater.insert directive.key entry

theorem gatherEach_eq_error {failure : Failure}
    (hgather : gatherEach flags load texts catalogue = (.error failure, gathered)) :
    ∃ earlier text later count, texts = earlier ++ text :: later ∧
      gatherEach flags load earlier catalogue = (.ok count, gathered) ∧
        ((Directive.parse? flags text = none ∧ failure = .malformed text) ∨
          ∃ directive, Directive.parse? flags text = some directive ∧
            isDue gathered directive = true ∧ load directive = .error failure) := by
  induction texts generalizing catalogue with
  | nil => cases hgather
  | cons text texts ih =>
      simp only [gatherEach] at hgather
      split at hgather
      · next other hmalformed =>
          cases hgather
          exact ⟨[], text, texts, 0, rfl, rfl, .inl (parse_eq_error_iff.mp hmalformed)⟩
      · next directive hdirective =>
          rw [parse_eq_ok_iff] at hdirective
          split at hgather
          · next hdue =>
              split at hgather
              · next other hload =>
                  cases hgather
                  exact ⟨[], text, texts, 0, rfl, rfl, .inr ⟨directive, hdirective, hdue, hload⟩⟩
              · next entry hload =>
                  rcases hrest : gatherEach flags load texts
                    (Dict.insert catalogue directive.key entry) with ⟨outcome, after⟩
                  rw [hrest] at hgather
                  cases outcome with
                  | ok rest => cases hgather
                  | error other =>
                      cases hgather
                      obtain ⟨earlier, word, later, rest, rfl, hearlier, hword⟩ := ih hrest
                      refine ⟨text :: earlier, word, later, rest + 1, rfl, ?_, hword⟩
                      rw [gatherEach_cons_eq_ok_iff]
                      exact ⟨directive, hdirective, .inl ⟨hdue, entry, rest, hload, rfl, hearlier⟩⟩
          · next hdue =>
              obtain ⟨earlier, word, later, rest, rfl, hearlier, hword⟩ := ih hgather
              refine ⟨text :: earlier, word, later, rest, rfl, ?_, hword⟩
              rw [gatherEach_cons_eq_ok_iff]
              exact ⟨directive, hdirective, .inr ⟨Bool.eq_false_iff.mpr hdue, hearlier⟩⟩

theorem gather_faithful {body : Text}
    (hgather : gather flags load body [] = (.ok count, gathered)) :
    Faithful flags load (Markup.directives body) gathered :=
  (gatherEach_faithful (fun _ hmem => hmem) (fun _ _ hmem => absurd hmem List.not_mem_nil)
    hgather).1

section Site

variable {site : Site} {files : FileTree} {channel : Channel}

theorem load_eq_ok_iff {directive : Directive} :
    Catalogue.load site files channel directive = .ok entry ↔
      site.loadData files channel directive.dataRef = .ok entry.data ∧
        site.loadTemplate files channel directive.templateRef =
          .ok ⟨entry.source, entry.content⟩ := by
  unfold Catalogue.load
  cases hdata : site.loadData files channel directive.dataRef with
  | error failure => simp [bind, Except.bind]
  | ok data =>
      cases hloaded : site.loadTemplate files channel directive.templateRef with
      | error failure => simp [bind, Except.bind]
      | ok loaded =>
          obtain ⟨source, content, data'⟩ := entry
          obtain ⟨source', content'⟩ := loaded
          simp only [bind, Except.bind, pure, Except.pure, Except.ok.injEq, Partial.mk.injEq,
            Loaded.mk.injEq]
          constructor
          · rintro ⟨rfl, rfl, rfl⟩
            exact ⟨rfl, rfl, rfl⟩
          · rintro ⟨rfl, rfl, rfl⟩
            exact ⟨rfl, rfl, rfl⟩

theorem load_eq_error {directive : Directive} {failure : Failure}
    (hload : Catalogue.load site files channel directive = .error failure) :
    site.loadData files channel directive.dataRef = .error failure ∨
      ((∃ data, site.loadData files channel directive.dataRef = .ok data) ∧
        site.loadTemplate files channel directive.templateRef = .error failure) := by
  unfold Catalogue.load at hload
  cases hdata : site.loadData files channel directive.dataRef with
  | error other =>
      rw [hdata] at hload
      cases hload
      exact .inl rfl
  | ok data =>
      cases hloaded : site.loadTemplate files channel directive.templateRef with
      | error other =>
          rw [hdata, hloaded] at hload
          cases hload
          exact .inr ⟨⟨data, rfl⟩, rfl⟩
      | ok loaded =>
          rw [hdata, hloaded] at hload
          cases hload

theorem load_eq_of_key_eq {text text' : Text} {directive other : Directive}
    (hparse : Directive.parse? flags text = some directive)
    (hparse' : Directive.parse? flags text' = some other) (hkey : directive.key = other.key) :
    Catalogue.load site files channel directive = Catalogue.load site files channel other := by
  obtain ⟨htemplate, hdata⟩ := Directive.refs_eq_of_key_eq hparse hparse' hkey
  simp only [Catalogue.load, htemplate, hdata]

/-- Every directive of a page has an entry, and it is what the directive itself stands for, even if
another one with its key was loaded. -/
theorem exists_find?_of_gather {body text : Text}
    (hgather : gather flags (Catalogue.load site files channel) body [] = (.ok count, gathered))
    (hmem : text ∈ Markup.directives body) :
    ∃ directive entry, Directive.parse? flags text = some directive ∧
      Dict.find? gathered directive.key = some entry ∧
        Catalogue.load site files channel directive = .ok entry := by
  obtain ⟨hfaithful, -, htexts⟩ := gatherEach_faithful (fun _ hmem => hmem)
    (fun _ _ hmem => absurd hmem List.not_mem_nil) hgather
  obtain ⟨directive, hparse, hcontains⟩ := htexts text hmem
  obtain ⟨entry, hfind⟩ := Option.isSome_iff_exists.mp hcontains
  obtain ⟨other, -, second, hother, hkey, hload⟩ :=
    hfaithful _ _ (Dict.mem_of_find?_eq_some hfind)
  refine ⟨directive, entry, hparse, hfind, ?_⟩
  rw [load_eq_of_key_eq hparse hother hkey.symm]
  exact hload

end Site

end Transclusion.Catalogue
