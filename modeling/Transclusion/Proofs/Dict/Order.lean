import Mathlib.Data.List.Nodup
import Mathlib.Data.String.Basic
import Transclusion.Proofs.Catalogue.Sweep

namespace Transclusion.Dict

/-! Dictionaries whose keys are in order hold one value under a key. Values that are put into a
dictionary under different keys do not get in each other's way. -/

variable {α β : Type} {dict rest : Dict α} {first : Text × α} {key other : Text} {value : α}

theorem insert_of_eq (heq : first.1 = key) :
    insert (first :: rest) key value = (key, value) :: rest :=
  if_pos heq

theorem insert_of_lt (hlt : key < first.1) :
    insert (first :: rest) key value = (key, value) :: first :: rest :=
  (if_neg (ne_of_gt hlt)).trans (if_pos hlt)

theorem insert_of_gt (hgt : first.1 < key) :
    insert (first :: rest) key value = first :: insert rest key value :=
  (if_neg (ne_of_lt hgt)).trans (if_neg (lt_asymm hgt))

theorem insert_insert_self (dict : Dict α) (key : Text) (present value : α) :
    insert (insert dict key present) key value = insert dict key value := by
  induction dict with
  | nil => exact insert_of_eq rfl
  | cons first rest ih =>
      rcases lt_trichotomy key first.1 with hlt | heq | hgt
      · rw [insert_of_lt hlt, insert_of_lt hlt, insert_of_eq rfl]
      · rw [insert_of_eq heq.symm, insert_of_eq heq.symm, insert_of_eq rfl]
      · rw [insert_of_gt hgt, insert_of_gt hgt, insert_of_gt hgt, ih]

private theorem insert_comm_of_lt (dict : Dict α) (hlt : key < other) (value present : α) :
    insert (insert dict key value) other present =
      insert (insert dict other present) key value := by
  induction dict with
  | nil => exact (insert_of_gt hlt).trans (insert_of_lt hlt).symm
  | cons first rest ih =>
      -- Where the smaller key goes, the greater one goes there too or further back.
      rcases lt_trichotomy key first.1 with hbefore | hat | hbehind
      · rw [insert_of_lt hbefore, insert_of_gt hlt]
        rcases lt_trichotomy other first.1 with hother | hother | hother
        · rw [insert_of_lt hother, insert_of_lt hlt]
        · rw [insert_of_eq hother.symm, insert_of_lt hlt]
        · rw [insert_of_gt hother, insert_of_lt hbefore]
      · rw [insert_of_eq hat.symm, insert_of_gt hlt, insert_of_gt (hat ▸ hlt),
          insert_of_eq hat.symm]
      · rw [insert_of_gt hbehind, insert_of_gt (hbehind.trans hlt),
          insert_of_gt (hbehind.trans hlt), insert_of_gt hbehind, ih]

theorem insert_comm (dict : Dict α) (hne : key ≠ other) (value present : α) :
    insert (insert dict key value) other present =
      insert (insert dict other present) key value := by
  rcases lt_or_gt_of_ne hne with hlt | hgt
  · exact insert_comm_of_lt dict hlt value present
  · exact (insert_comm_of_lt dict hgt present value).symm

section Overlay

theorem overlay_cons (lower upper : Dict α) (entry : Text × α) :
    overlay lower (entry :: upper) = overlay (insert lower entry.1 entry.2) upper := rfl

variable {lower upper : Dict α}

theorem overlay_insert_of_mem (hmem : key ∈ keys upper) (lower : Dict α) (value : α) :
    overlay (insert lower key value) upper = overlay lower upper := by
  induction upper generalizing lower with
  | nil => exact absurd hmem List.not_mem_nil
  | cons entry upper ih =>
      rw [overlay_cons, overlay_cons]
      by_cases heq : key = entry.1
      · rw [heq, insert_insert_self]
      · rcases List.mem_cons.mp hmem with hhead | hmem
        · exact absurd hhead heq
        · rw [insert_comm lower heq, ih hmem]

theorem overlay_insert_of_notMem (hmem : key ∉ keys upper) (lower : Dict α) (value : α) :
    overlay (insert lower key value) upper = insert (overlay lower upper) key value := by
  induction upper generalizing lower with
  | nil => rfl
  | cons entry upper ih =>
      have hne : key ≠ entry.1 := fun heq => hmem (heq ▸ List.mem_cons_self)
      have hbehind : key ∉ keys upper := fun hkey => hmem (List.mem_cons_of_mem _ hkey)
      rw [overlay_cons, overlay_cons, insert_comm lower hne, ih hbehind]

theorem overlay_overlay_self (lower upper : Dict α) :
    overlay (overlay lower upper) upper = overlay lower upper := by
  induction upper generalizing lower with
  | nil => rfl
  | cons entry upper ih =>
      rw [overlay_cons, overlay_cons]
      -- Of several entries under one key, the last has the say both times.
      by_cases hmem : entry.1 ∈ keys upper
      · rw [overlay_insert_of_mem hmem, ih]
      · rw [overlay_insert_of_notMem hmem, ih, overlay_insert_of_notMem hmem, insert_insert_self]

theorem find?_overlay_reverse (lower upper : Dict α) (key : Text) :
    find? (overlay lower upper) key = (find? upper.reverse key).or (find? lower key) := by
  induction upper generalizing lower with
  | nil => rfl
  | cons entry upper ih =>
      rw [overlay_cons, ih, find?_insert, List.reverse_cons, find?_append, find?_cons,
        Option.or_assoc]
      split <;> rfl

theorem find?_ofList (entries : List (Text × α)) (key : Text) :
    find? (ofList entries) key = find? entries.reverse key := by
  rw [ofList, find?_overlay_reverse, find?_nil, Option.or_none]

end Overlay

theorem mem_iff_find?_of_nodup (hnodup : (keys dict).Nodup) :
    (key, value) ∈ dict ↔ find? dict key = some value := by
  refine ⟨fun hmem => ?_, mem_of_find?_eq_some⟩
  induction dict with
  | nil => exact absurd hmem List.not_mem_nil
  | cons first rest ih =>
      obtain ⟨hfirst, hrest⟩ := List.nodup_cons.mp hnodup
      rw [find?_cons]
      rcases List.mem_cons.mp hmem with rfl | hmem
      · exact if_pos rfl
      · rw [if_neg fun heq : first.1 = key => hfirst (heq ▸ List.mem_map_of_mem hmem)]
        exact ih hrest hmem

theorem find?_ofList_of_nodup {entries : List (Text × α)} (hnodup : (keys entries).Nodup) :
    find? (ofList entries) key = some value ↔ (key, value) ∈ entries := by
  rw [find?_ofList, ← mem_iff_find?_of_nodup, List.mem_reverse]
  rw [keys, List.map_reverse]
  exact List.nodup_reverse.mpr hnodup

def Sorted (dict : Dict α) : Prop :=
  (keys dict).Pairwise (· < ·)

theorem keys_mapValues (change : α → β) (dict : Dict α) :
    keys (mapValues change dict) = keys dict := by
  simp only [keys, mapValues, List.map_map]
  rfl

namespace Sorted

theorem nil : Sorted ([] : Dict α) := List.Pairwise.nil

theorem insert (hsorted : Sorted dict) (key : Text) (value : α) :
    Sorted (Dict.insert dict key value) := by
  induction dict with
  | nil => exact List.pairwise_singleton _ _
  | cons first rest ih =>
      obtain ⟨hfirst, hrest⟩ := List.pairwise_cons.mp hsorted
      rcases lt_trichotomy key first.1 with hlt | heq | hgt
      · rw [insert_of_lt hlt]
        refine List.pairwise_cons.mpr ⟨fun other hmem => ?_, hsorted⟩
        rcases List.mem_cons.mp hmem with rfl | hmem
        · exact hlt
        · exact hlt.trans (hfirst other hmem)
      · rw [insert_of_eq heq.symm]
        exact List.pairwise_cons.mpr ⟨heq ▸ hfirst, hrest⟩
      · rw [insert_of_gt hgt]
        refine List.pairwise_cons.mpr ⟨fun other hmem => ?_, ih hrest⟩
        obtain ⟨entry, hentry, rfl⟩ := List.mem_map.mp hmem
        rcases mem_insert hentry with rfl | hentry
        · exact hgt
        · exact hfirst _ (List.mem_map_of_mem hentry)

theorem mapValues (hsorted : Sorted dict) (change : α → β) :
    Sorted (Dict.mapValues change dict) := by
  rw [Sorted, keys_mapValues]
  exact hsorted

theorem nodup_keys (hsorted : Sorted dict) : (keys dict).Nodup :=
  List.Pairwise.imp ne_of_lt hsorted

theorem mem_iff_find? (hsorted : Sorted dict) :
    (key, value) ∈ dict ↔ find? dict key = some value :=
  mem_iff_find?_of_nodup hsorted.nodup_keys

theorem lt_of_append {before behind : Dict α}
    (hsorted : Sorted (before ++ (key, value) :: behind)) :
    (∀ other ∈ keys before, other < key) ∧ ∀ other ∈ keys behind, key < other := by
  rw [Sorted, keys, List.map_append, List.pairwise_append] at hsorted
  obtain ⟨-, hbehind, hbefore⟩ := hsorted
  refine ⟨fun other hmem => hbefore other hmem key List.mem_cons_self, ?_⟩
  exact (List.pairwise_cons.mp hbehind).1

theorem find?_overlay {upper : Dict α} (hupper : Sorted upper) (lower : Dict α) (key : Text) :
    find? (overlay lower upper) key = (find? upper key).or (find? lower key) := by
  induction upper generalizing lower with
  | nil => rfl
  | cons entry upper ih =>
      obtain ⟨other, present⟩ := entry
      obtain ⟨hfirst, hrest⟩ := List.pairwise_cons.mp hupper
      rw [overlay_cons, ih hrest, find?_insert, find?_cons]
      split
      · next heq =>
          have hnone : find? upper key = none :=
            find?_eq_none_iff.mpr fun hmem => lt_irrefl _ (heq ▸ hfirst key hmem)
          rw [hnone]
          rfl
      · rfl

/-- What a pass that fails leaves under each key, the key that it fails at among them. -/
theorem find?_sweep_of_error {pass : α → Except β Unit × α} {failure : β} {after : Dict α}
    (hsorted : Sorted dict) (hsweep : sweep pass dict = (.error failure, after)) :
    ∃ key value, find? dict key = some value ∧ (pass value).1 = .error failure ∧
      find? after key = some (pass value).2 ∧
      (∀ other present, other < key → find? dict other = some present →
        (pass present).1 = .ok () ∧ find? after other = some (pass present).2) ∧
      ∀ other, key < other → find? after other = find? dict other := by
  obtain ⟨before, key, value, behind, rfl, hbefore, hfail, rfl⟩ := sweep_eq_error hsweep
  obtain ⟨hahead, hlater⟩ := hsorted.lt_of_append
  have hkey : find? before key = none :=
    find?_eq_none_iff.mpr fun hmem => lt_irrefl _ (hahead key hmem)
  refine ⟨key, value, ?_, hfail, ?_, fun other present hlt hfind => ?_, fun other hlt => ?_⟩
  · rw [find?_append, hkey, Option.none_or, find?_cons, if_pos rfl]
  · rw [find?_append, find?_mapValues, hkey, Option.map_none, Option.none_or, find?_cons,
      if_pos rfl]
  · have hbehind : find? ((key, value) :: behind) other = none := by
      rw [find?_cons, if_neg (ne_of_gt hlt), find?_eq_none_iff]
      exact fun hmem => lt_asymm hlt (hlater other hmem)
    rw [find?_append, hbehind, Option.or_none] at hfind
    refine ⟨hbefore other present (mem_of_find?_eq_some hfind), ?_⟩
    rw [find?_append, find?_mapValues, hfind]
    rfl
  · have hother : find? before other = none :=
      find?_eq_none_iff.mpr fun hmem => lt_asymm hlt (hahead other hmem)
    rw [find?_append, find?_append, find?_mapValues, hother, Option.map_none, find?_cons,
      find?_cons, if_neg (ne_of_lt hlt), if_neg (ne_of_lt hlt)]

end Sorted

theorem sorted_overlay (hsorted : Sorted dict) (upper : Dict α) : Sorted (overlay dict upper) := by
  induction upper generalizing dict with
  | nil => exact hsorted
  | cons entry upper ih => exact ih (hsorted.insert entry.1 entry.2)

theorem sorted_ofList (entries : List (Text × α)) : Sorted (ofList entries) :=
  sorted_overlay Sorted.nil entries

theorem Sorted.ext {other : Dict α} (hsorted : Sorted dict) (hother : Sorted other)
    (hfind : ∀ key, find? dict key = find? other key) : dict = other := by
  have hmem : ∀ entry, entry ∈ dict ↔ entry ∈ other := fun entry => by
    rw [hsorted.mem_iff_find?, hother.mem_iff_find?, hfind]
  have hperm : dict.Perm other := (List.perm_ext_iff_of_nodup
    (List.Nodup.of_map _ hsorted.nodup_keys) (List.Nodup.of_map _ hother.nodup_keys)).mpr hmem
  refine hperm.eq_of_pairwise ?_ (List.pairwise_map.mp hsorted) (List.pairwise_map.mp hother)
  exact fun first second _ _ hlt hgt => absurd hgt (lt_asymm hlt)

theorem Sorted.ofList_of_perm {entries : List (Text × α)} (hsorted : Sorted dict)
    (hperm : entries.Perm dict) : ofList entries = dict := by
  have hnodup : (keys entries).Nodup := (hperm.map Prod.fst).nodup_iff.mpr hsorted.nodup_keys
  refine (sorted_ofList entries).ext hsorted fun key => Option.ext fun value => ?_
  rw [find?_ofList_of_nodup hnodup, hperm.mem_iff, hsorted.mem_iff_find?]

end Transclusion.Dict
