import Transclusion.Dict

namespace Transclusion.Dict

/-! What passes over a whole dictionary come to, entry by entry. -/

variable {α β : Type} {dict : Dict α} {key : Text} {value : α}

theorem mem_of_find?_eq_some (hfind : find? dict key = some value) : (key, value) ∈ dict := by
  induction dict with
  | nil => simp at hfind
  | cons entry rest ih =>
      obtain ⟨other, present⟩ := entry
      rw [find?_cons] at hfind
      split at hfind
      · next heq =>
          cases hfind
          rw [heq]
          exact List.mem_cons_self
      · exact List.mem_cons_of_mem _ (ih hfind)

theorem mem_insert {entry : Text × α} (hmem : entry ∈ insert dict key value) :
    entry = (key, value) ∨ entry ∈ dict := by
  induction dict with
  | nil => exact .inl (List.mem_singleton.mp hmem)
  | cons first rest ih =>
      obtain ⟨other, present⟩ := first
      simp only [insert] at hmem
      split at hmem
      · rcases List.mem_cons.mp hmem with heq | hmem
        · exact .inl heq
        · exact .inr (List.mem_cons_of_mem _ hmem)
      · split at hmem
        · rcases List.mem_cons.mp hmem with heq | hmem
          · exact .inl heq
          · exact .inr hmem
        · rcases List.mem_cons.mp hmem with heq | hmem
          · exact .inr (heq ▸ List.mem_cons_self)
          · exact (ih hmem).imp id (List.mem_cons_of_mem _)

def mapValues (change : α → β) (dict : Dict α) : Dict β :=
  dict.map fun entry => (entry.1, change entry.2)

theorem find?_mapValues (change : α → β) (dict : Dict α) (key : Text) :
    find? (mapValues change dict) key = (find? dict key).map change := by
  induction dict with
  | nil => rfl
  | cons entry rest ih =>
      obtain ⟨other, present⟩ := entry
      change find? ((other, change present) :: mapValues change rest) key = _
      rw [find?_cons, find?_cons, ih]
      split <;> rfl

theorem mem_mapValues {change : α → β} {entry : Text × β} :
    entry ∈ mapValues change dict ↔
      ∃ value, (entry.1, value) ∈ dict ∧ change value = entry.2 := by
  unfold mapValues
  rw [List.mem_map]
  constructor
  · rintro ⟨⟨key, value⟩, hmem, rfl⟩
    exact ⟨value, hmem, rfl⟩
  · rintro ⟨value, hmem, hvalue⟩
    exact ⟨(entry.1, value), hmem, by rw [hvalue]⟩

theorem mapValues_mapValues {γ : Type} (change : α → β) (further : β → γ) (dict : Dict α) :
    mapValues further (mapValues change dict) =
      mapValues (fun value => further (change value)) dict := by
  simp only [mapValues, List.map_map]
  rfl

theorem contains_mapValues (change : α → β) (dict : Dict α) (key : Text) :
    contains (mapValues change dict) key = contains dict key := by
  rw [contains, find?_mapValues, Option.isSome_map, contains]

theorem mapValues_insert (change : α → β) (dict : Dict α) (key : Text) (value : α) :
    mapValues change (insert dict key value) = insert (mapValues change dict) key (change value) := by
  induction dict with
  | nil => rfl
  | cons entry rest ih =>
      obtain ⟨other, present⟩ := entry
      change mapValues change (insert ((other, present) :: rest) key value) =
        insert ((other, change present) :: mapValues change rest) key (change value)
      simp only [insert]
      split
      · rfl
      · split
        · rfl
        · rw [← ih]
          rfl

theorem sweep_mapValues {γ : Type} {pass : α → Except γ Unit × α} {other : β → Except γ Unit × β}
    {change : α → β}
    (hpass : ∀ value, other (change value) = ((pass value).1, change (pass value).2))
    (dict : Dict α) :
    sweep other (mapValues change dict) =
      ((sweep pass dict).1, mapValues change (sweep pass dict).2) := by
  induction dict with
  | nil => rfl
  | cons entry rest ih =>
      obtain ⟨key, value⟩ := entry
      change sweep other ((key, change value) :: mapValues change rest) = _
      simp only [sweep, hpass]
      rcases pass value with ⟨failure | _, changed⟩
      · rfl
      · simp only [ih]
        rfl

theorem sweep_fst_eq_ok_iff (pass : α → Except β Unit × α) (dict : Dict α) :
    (sweep pass dict).1 = .ok () ↔ ∀ key value, (key, value) ∈ dict → (pass value).1 = .ok () := by
  induction dict with
  | nil => exact ⟨fun _ _ _ hmem => absurd hmem List.not_mem_nil, fun _ => rfl⟩
  | cons entry rest ih =>
      obtain ⟨key, value⟩ := entry
      rcases hpass : pass value with ⟨outcome, changed⟩
      cases outcome with
      | error failure =>
          simp only [sweep, hpass, reduceCtorEq, false_iff]
          intro hall
          have := hall key value List.mem_cons_self
          rw [hpass] at this
          cases this
      | ok _ =>
          simp only [sweep, hpass, ih]
          constructor
          · intro hrest key' value' hmem
            rcases List.mem_cons.mp hmem with heq | hmem
            · cases heq
              rw [hpass]
            · exact hrest key' value' hmem
          · exact fun hall key' value' hmem => hall key' value' (List.mem_cons_of_mem _ hmem)

theorem sweep_snd_of_ok {pass : α → Except β Unit × α}
    (hok : (sweep pass dict).1 = .ok ()) :
    (sweep pass dict).2 = mapValues (fun value => (pass value).2) dict := by
  induction dict with
  | nil => rfl
  | cons entry rest ih =>
      obtain ⟨key, value⟩ := entry
      rcases hpass : pass value with ⟨outcome, changed⟩
      cases outcome with
      | error failure =>
          simp only [sweep, hpass] at hok
          cases hok
      | ok _ =>
          simp only [sweep, hpass] at hok ⊢
          rw [ih hok]
          simp [mapValues, hpass]

theorem sweep_eq_ok_iff {pass : α → Except β Unit × α} {after : Dict α} :
    sweep pass dict = (.ok (), after) ↔
      (∀ key value, (key, value) ∈ dict → (pass value).1 = .ok ()) ∧
        mapValues (fun value => (pass value).2) dict = after := by
  rw [Prod.ext_iff, sweep_fst_eq_ok_iff]
  refine and_congr_right fun hall => ?_
  rw [sweep_snd_of_ok ((sweep_fst_eq_ok_iff pass dict).mpr hall)]

/-- After a pass every entry is as it was or as the pass has changed it, wherever the pass ended. -/
theorem mem_sweep {pass : α → Except β Unit × α} (hmem : (key, value) ∈ (sweep pass dict).2) :
    ∃ before, (key, before) ∈ dict ∧ (value = before ∨ value = (pass before).2) := by
  induction dict with
  | nil => exact absurd hmem List.not_mem_nil
  | cons entry rest ih =>
      obtain ⟨other, present⟩ := entry
      rcases hpass : pass present with ⟨failure | _, changed⟩
      · simp only [sweep, hpass] at hmem
        rcases List.mem_cons.mp hmem with heq | hmem
        · cases heq
          exact ⟨present, List.mem_cons_self, .inr (by rw [hpass])⟩
        · exact ⟨value, List.mem_cons_of_mem _ hmem, .inl rfl⟩
      · simp only [sweep, hpass] at hmem
        rcases List.mem_cons.mp hmem with heq | hmem
        · cases heq
          exact ⟨present, List.mem_cons_self, .inr (by rw [hpass])⟩
        · obtain ⟨before, hbefore, hvalue⟩ := ih hmem
          exact ⟨before, List.mem_cons_of_mem _ hbefore, hvalue⟩

theorem find?_sweep {pass : α → Except β Unit × α} (hfind : find? dict key = some value) :
    find? (sweep pass dict).2 key = some value ∨
      find? (sweep pass dict).2 key = some (pass value).2 := by
  induction dict with
  | nil => cases hfind
  | cons entry rest ih =>
      obtain ⟨other, present⟩ := entry
      rw [find?_cons] at hfind
      rcases hpass : pass present with ⟨failure | _, changed⟩
      · simp only [sweep, hpass, find?_cons]
        split at hfind
        · next heq =>
            cases hfind
            rw [if_pos heq, hpass]
            exact .inr rfl
        · next hne =>
            rw [if_neg hne]
            exact .inl hfind
      · simp only [sweep, hpass, find?_cons]
        split at hfind
        · next heq =>
            cases hfind
            rw [if_pos heq, hpass]
            exact .inr rfl
        · next hne =>
            rw [if_neg hne]
            exact ih hfind

theorem contains_iff_mem_keys : contains dict key = true ↔ key ∈ keys dict := by
  induction dict with
  | nil => exact ⟨fun h => absurd h Bool.false_ne_true, fun h => absurd h List.not_mem_nil⟩
  | cons entry rest ih =>
      obtain ⟨other, present⟩ := entry
      change (find? ((other, present) :: rest) key).isSome = true ↔ key ∈ other :: keys rest
      rw [List.mem_cons, find?_cons]
      split
      · next heq => exact ⟨fun _ => .inl heq.symm, fun _ => rfl⟩
      · next hne =>
          rw [show (find? rest key).isSome = true ↔ key ∈ keys rest from ih]
          exact ⟨.inr, fun h => h.resolve_left (Ne.symm hne)⟩

theorem find?_eq_none_iff : find? dict key = none ↔ key ∉ keys dict := by
  rw [← contains_iff_mem_keys, contains, Option.not_isSome_iff_eq_none]

theorem find?_append (first second : Dict α) (key : Text) :
    find? (first ++ second) key = (find? first key).or (find? second key) := by
  induction first with
  | nil => rfl
  | cons entry rest ih =>
      obtain ⟨other, present⟩ := entry
      rw [List.cons_append, find?_cons, find?_cons, ih]
      split <;> rfl

theorem sweep_eq_error {pass : α → Except β Unit × α} {failure : β} {after : Dict α}
    (hsweep : sweep pass dict = (.error failure, after)) :
    ∃ before key value behind, dict = before ++ (key, value) :: behind ∧
      (∀ key value, (key, value) ∈ before → (pass value).1 = .ok ()) ∧
      (pass value).1 = .error failure ∧
      after = mapValues (fun value => (pass value).2) before ++ (key, (pass value).2) :: behind := by
  induction dict generalizing after with
  | nil => cases hsweep
  | cons entry rest ih =>
      obtain ⟨key, value⟩ := entry
      rcases hpass : pass value with ⟨other | _, changed⟩
      · simp only [sweep, hpass] at hsweep
        cases hsweep
        refine ⟨[], key, value, rest, rfl, fun _ _ hmem => absurd hmem List.not_mem_nil, ?_, ?_⟩
        · rw [hpass]
        · rw [hpass]
          rfl
      · simp only [sweep, hpass] at hsweep
        rcases hrest : sweep pass rest with ⟨outcome, swept⟩
        rw [hrest] at hsweep
        cases hsweep
        obtain ⟨before, key', value', behind, rfl, hbefore, hfail, rfl⟩ := ih hrest
        refine ⟨(key, value) :: before, key', value', behind, rfl, ?_, hfail, ?_⟩
        · intro other present hmem
          rcases List.mem_cons.mp hmem with heq | hmem
          · cases heq
            rw [hpass]
          · exact hbefore other present hmem
        · simp only [mapValues, List.map_cons, List.cons_append, hpass]

theorem contains_sweep (pass : α → Except β Unit × α) (dict : Dict α) (key : Text) :
    contains (sweep pass dict).2 key = contains dict key := by
  rw [Bool.eq_iff_iff, contains_iff_mem_keys, keys_sweep, contains_iff_mem_keys]

theorem sweep_congr {pass other : α → Except β Unit × α}
    (hsame : ∀ key value, (key, value) ∈ dict → pass value = other value) :
    sweep pass dict = sweep other dict := by
  induction dict with
  | nil => rfl
  | cons entry rest ih =>
      obtain ⟨key, value⟩ := entry
      have hrest := ih fun key value hmem => hsame key value (List.mem_cons_of_mem _ hmem)
      simp only [sweep, hsame key value List.mem_cons_self, hrest]

end Transclusion.Dict
