import Mathlib.Data.List.Infix
import Transclusion.Text.Basic

namespace Transclusion.Text

/-! The first place where a text holds a mark. -/

variable {mark text before after : Text} {c : Char}

/-- Behind the text the mark comes for the first time: in the two together it is nowhere but at the
end. -/
def Until (mark text : Text) : Prop :=
  ∀ front back, text ++ mark = front ++ (mark ++ back) → back = []

theorem until_nil (mark : Text) : Until mark [] := by
  intro front back heq
  have hlength := congrArg List.length heq
  simp only [List.nil_append, List.length_append] at hlength
  exact List.eq_nil_of_length_eq_zero (by omega)

theorem until_cons_iff :
    Until mark (c :: text) ↔ ¬ mark <+: c :: (text ++ mark) ∧ Until mark text := by
  constructor
  · intro huntil
    constructor
    · rintro ⟨back, heq⟩
      have hback := huntil [] back heq.symm
      have hlength := congrArg List.length heq
      simp only [hback, List.append_nil, List.length_cons, List.length_append] at hlength
      omega
    · intro front back heq
      exact huntil (c :: front) back (congrArg (c :: ·) heq)
  · rintro ⟨hfront, huntil⟩ front back heq
    cases front with
    | nil => exact absurd ⟨back, heq.symm⟩ hfront
    | cons d front =>
        obtain ⟨-, heq⟩ := List.cons.inj heq
        exact huntil front back heq

theorem isPrefix_of_isPrefix_append (after : Text) (hfront : mark <+: text ++ (mark ++ after)) :
    mark <+: text ++ mark := by
  rw [← List.append_assoc] at hfront
  exact List.prefix_of_prefix_length_le hfront (List.prefix_append _ _) (by simp)

theorem not_isPrefix_of_until (huntil : Until mark (c :: text)) (after : Text) :
    ¬ mark <+: c :: (text ++ (mark ++ after)) := by
  rw [← List.cons_append]
  intro hfront
  exact (until_cons_iff.mp huntil).1 (isPrefix_of_isPrefix_append after hfront)

theorem not_isInfix_of_until (hmark : mark ≠ []) (huntil : Until mark text) : ¬ mark <:+: text := by
  rintro ⟨front, back, rfl⟩
  have hback := huntil front (back ++ mark) (by simp)
  exact hmark (List.append_eq_nil_iff.mp hback).2

theorem breakAt?_eq_some_iff :
    breakAt? mark text = some (before, after) ↔
      Until mark before ∧ text = before ++ (mark ++ after) := by
  induction text generalizing before with
  | nil =>
      simp only [breakAt?, Option.map_eq_some_iff, List.isPrefixOf?_eq_some_iff_append_eq,
        Prod.mk.injEq, List.append_eq_nil_iff, List.nil_eq]
      constructor
      · rintro ⟨_, ⟨hmark, rfl⟩, rfl, rfl⟩
        exact ⟨until_nil mark, rfl, hmark, rfl⟩
      · rintro ⟨-, rfl, hmark, rfl⟩
        exact ⟨[], ⟨hmark, rfl⟩, rfl, rfl⟩
  | cons c rest ih =>
      unfold breakAt?
      split
      · next behind hfront =>
          rw [List.isPrefixOf?_eq_some_iff_append_eq] at hfront
          rw [← hfront]
          constructor
          · intro heq
            cases heq
            exact ⟨until_nil mark, rfl⟩
          · rintro ⟨huntil, heq⟩
            cases before with
            | nil => rw [List.append_cancel_left heq]
            | cons d before =>
                exact absurd ⟨behind, heq⟩ (not_isPrefix_of_until huntil after)
      · next hnone =>
          have hfront : ¬ mark <+: c :: rest := by
            rintro ⟨behind, heq⟩
            rw [List.isPrefixOf?_eq_some_iff_append_eq.mpr heq] at hnone
            cases hnone
          constructor
          · intro hbreak
            obtain ⟨⟨inner, behind⟩, hinner, hparts⟩ := Option.map_eq_some_iff.mp hbreak
            obtain ⟨rfl, rfl⟩ := Prod.mk.inj hparts
            obtain ⟨huntil, rfl⟩ := ih.mp hinner
            refine ⟨until_cons_iff.mpr ⟨fun hmark => hfront ?_, huntil⟩, rfl⟩
            exact hmark.trans (by simp [← List.append_assoc])
          · rintro ⟨huntil, heq⟩
            cases before with
            | nil => exact absurd ⟨after, heq.symm⟩ hfront
            | cons d inner =>
                obtain ⟨rfl, rfl⟩ := List.cons.inj heq
                exact Option.map_eq_some_iff.mpr
                  ⟨(inner, after), ih.mpr ⟨(until_cons_iff.mp huntil).2, rfl⟩, rfl⟩

theorem breakAt?_eq_none_iff : breakAt? mark text = none ↔ ¬ mark <:+: text := by
  constructor
  · rintro hnone ⟨front, back, heq⟩
    induction text generalizing front with
    | nil =>
        obtain ⟨hfront, rfl⟩ := List.append_eq_nil_iff.mp heq
        obtain ⟨rfl, rfl⟩ := List.append_eq_nil_iff.mp hfront
        cases hnone
    | cons c rest ih =>
        unfold breakAt? at hnone
        split at hnone
        · cases hnone
        · next hpart =>
            cases front with
            | nil =>
                have hmark : mark ++ back = c :: rest := heq
                rw [List.isPrefixOf?_eq_some_iff_append_eq.mpr hmark] at hpart
                cases hpart
            | cons d front =>
                obtain ⟨-, heq⟩ := List.cons.inj heq
                exact ih (Option.map_eq_none_iff.mp hnone) front heq
  · intro hmark
    cases hbreak : breakAt? mark text with
    | none => rfl
    | some parts =>
        obtain ⟨-, rfl⟩ := breakAt?_eq_some_iff.mp hbreak
        exact absurd ⟨_, _, List.append_assoc _ _ _⟩ hmark

theorem holds_eq_true_iff : holds mark text = true ↔ mark <:+: text := by
  rw [holds, Option.isSome_iff_ne_none, ne_eq, breakAt?_eq_none_iff, not_not]

end Transclusion.Text
