import Mathlib.Data.List.Forall2
import Transclusion.Proofs.Text.Fold
import Transclusion.Rename

namespace Transclusion.Rename

/-! Renaming stretch by stretch. No word reaches over a character that stands between words and is
not a dash, so that what lies on either side of it is renamed on its own. -/

variable {rename : Rename} {word text read rest kept front behind : Text} {c d : Char}
  {before last : Option Char} {length skip : Nat}

def isNameChar (c : Char) : Bool :=
  c.isAlphanum || c == '_' || c == '-'

structure Named (rename : Rename) : Prop where
  old_ne_nil : rename.old ≠ []
  new_ne_nil : rename.new ≠ []
  old_chars : ∀ c ∈ rename.old, isNameChar c = true
  new_chars : ∀ c ∈ rename.new, isNameChar c = true

/-- The text has neither of the characters beyond ASCII that are case variants of a letter in it. -/
structure Plain (text : Text) : Prop where
  long : '\u017f' ∉ text
  kelvin : '\u212a' ∉ text

theorem Plain.of_subset (hplain : Plain text) (hsubset : front ⊆ text) : Plain front :=
  ⟨fun hmem => hplain.long (hsubset hmem), fun hmem => hplain.kelvin (hsubset hmem)⟩

/-- A character that stands between words and is not a dash. -/
structure Stops (c : Char) : Prop where
  between : Text.isWord c = false
  ne_dash : c ≠ '-'

theorem toNat_lt_of_isNameChar (hname : isNameChar c = true) : c.toNat < 0x80 := by
  rcases Bool.or_eq_true_iff.mp hname with hname | hdash
  · rcases Bool.or_eq_true_iff.mp hname with halnum | hline
    · have hlast : c.val ≤ 'z'.val := by
        rcases Bool.or_eq_true_iff.mp halnum with halpha | hdigit
        · rcases Bool.or_eq_true_iff.mp halpha with hupper | hlower
          · exact UInt32.le_trans (of_decide_eq_true hupper).2 (by decide)
          · exact of_decide_eq_true (Bool.and_eq_true_iff.mp hlower).2
        · have hnine := of_decide_eq_true (Bool.and_eq_true_iff.mp hdigit).2
          exact UInt32.le_trans hnine (by decide)
      exact Nat.lt_of_le_of_lt (UInt32.le_iff_toNat_le.mp hlast) (by decide)
    · rw [beq_iff_eq.mp hline]
      decide
  · rw [beq_iff_eq.mp hdash]
    decide

theorem isNameChar_toLower (hc : c.toNat < 0x80) : isNameChar c.toLower = isNameChar c := by
  have hascii : ∀ code < 0x80,
      isNameChar (Char.ofNat code).toLower = isNameChar (Char.ofNat code) := by
    decide +kernel
  have hsame := hascii c.toNat hc
  rwa [Char.ofNat_toNat] at hsame

theorem fold_eq_toLower (hc : c.toNat < 0x80) : Text.fold c = c.toLower := if_pos hc

theorem isNameChar_of_sameFold (hname : isNameChar c = true) (hsame : Text.sameFold c d = true)
    (hlong : d ≠ '\u017f') (hkelvin : d ≠ '\u212a') : isNameChar d = true := by
  have hc := toNat_lt_of_isNameChar hname
  have hlower : isNameChar c.toLower = true := (isNameChar_toLower hc).trans hname
  have hd : d.toNat < 0x80 := by
    refine Text.toNat_lt_of_sameFold ?_ hsame hlong hkelvin
    rw [fold_eq_toLower hc]
    exact toNat_lt_of_isNameChar hlower
  have hfold : Text.fold c = Text.fold d := beq_iff_eq.mp hsame
  rw [fold_eq_toLower hc, fold_eq_toLower hd] at hfold
  rw [← isNameChar_toLower hd, ← hfold, hlower]

theorem isNameChar_of_mem_mark (hmem : c ∈ mark) : isNameChar c = true := by
  have hmark : mark.all isNameChar = true := by decide
  exact List.all_eq_true.mp hmark c hmem

namespace Stops

theorem isNameChar_eq_false (hstop : Stops c) : isNameChar c = false := by
  rw [Bool.eq_false_iff]
  intro hname
  have hbetween := hstop.between
  rw [Text.isWord, if_pos (toNat_lt_of_isNameChar hname)] at hbetween
  rw [isNameChar, hbetween, Bool.false_or, beq_iff_eq] at hname
  exact hstop.ne_dash hname

theorem sameFold_eq_false (hstop : Stops c) (hname : isNameChar d = true) :
    Text.sameFold d c = false := by
  rw [Bool.eq_false_iff]
  intro hsame
  have hlong : c ≠ '\u017f' := by
    rintro rfl
    exact absurd hstop.between (by decide +kernel)
  have hkelvin : c ≠ '\u212a' := by
    rintro rfl
    exact absurd hstop.between (by decide +kernel)
  have hc := isNameChar_of_sameFold hname hsame hlong hkelvin
  cases hc.symm.trans hstop.isNameChar_eq_false

theorem wordBoundary_cons (hstop : Stops c) (last : Option Char) (text behind : Text) :
    Text.wordBoundary last (text ++ c :: behind).head? = Text.wordBoundary last text.head? := by
  cases text with
  | nil => simp [Text.wordBoundary, hstop.between]
  | cons d text => rfl

end Stops

section Stop

variable (hstop : Stops c)
include hstop

theorem readFolded?_append_stop (hword : ∀ d ∈ word, isNameChar d = true) (text behind : Text) :
    readFolded? word (text ++ c :: behind) =
      (readFolded? word text).map fun found => (found.1, found.2 ++ c :: behind) := by
  induction word generalizing text with
  | nil => rfl
  | cons d word ih =>
      have hd : isNameChar d = true := hword d List.mem_cons_self
      cases text with
      | nil =>
          change (if Text.sameFold d c then (readFolded? word behind).map _ else none) = none
          rw [if_neg (by simp [hstop.sameFold_eq_false hd])]
      | cons e text =>
          have hrest := ih (fun d hmem => hword d (List.mem_cons_of_mem _ hmem)) text
          rw [List.cons_append, readFolded?, readFolded?, hrest]
          split
          · rw [Option.map_map, Option.map_map]
            rfl
          · rfl

theorem ending?_append_stop (last : Option Char) (rest behind : Text) :
    ending? last (rest ++ c :: behind) = ending? last rest := by
  have hmark := readFolded?_append_stop hstop (fun _ => isNameChar_of_mem_mark) rest behind
  simp only [ending?, hmark, hstop.wordBoundary_cons, Option.bind_eq_bind, Option.bind_map,
    Function.comp_def]

theorem readWord?_append_stop (hword : ∀ d ∈ word, isNameChar d = true) (before : Option Char)
    (text behind : Text) :
    readWord? word before (text ++ c :: behind) = readWord? word before text := by
  simp only [readWord?, hstop.wordBoundary_cons, readFolded?_append_stop hstop hword,
    Option.bind_eq_bind, Option.bind_map, Function.comp_def, ending?_append_stop hstop]

end Stop

theorem readFolded?_eq_some (hread : readFolded? word text = some (read, rest)) :
    text = read ++ rest ∧ List.Forall₂ (fun c d => Text.sameFold c d = true) word read := by
  induction word generalizing text read with
  | nil =>
      cases hread
      exact ⟨rfl, .nil⟩
  | cons c word ih =>
      cases text with
      | nil => cases hread
      | cons d text =>
          rw [readFolded?] at hread
          split at hread
          · next hsame =>
              obtain ⟨⟨inner, behind⟩, hinner, hparts⟩ := Option.map_eq_some_iff.mp hread
              cases hparts
              obtain ⟨rfl, hfolded⟩ := ih hinner
              exact ⟨rfl, .cons hsame hfolded⟩
          · cases hread

theorem isNameChar_of_forall₂ (hword : ∀ c ∈ word, isNameChar c = true)
    (hread : List.Forall₂ (fun c d => Text.sameFold c d = true) word read) (hplain : Plain read)
    (hmem : d ∈ read) : isNameChar d = true := by
  induction hread with
  | nil => exact absurd hmem List.not_mem_nil
  | cons hsame _ ih =>
      rcases List.mem_cons.mp hmem with rfl | hmem
      · refine isNameChar_of_sameFold (hword _ List.mem_cons_self) hsame ?_ ?_
        · rintro rfl
          exact hplain.long List.mem_cons_self
        · rintro rfl
          exact hplain.kelvin List.mem_cons_self
      · exact ih (fun c hc => hword c (List.mem_cons_of_mem _ hc))
          (hplain.of_subset (List.subset_cons_self _ _)) hmem

theorem ending?_eq_some (hending : ending? last rest = some kept) :
    ∃ behind, rest = kept ++ behind ∧
      (kept = [] ∨ List.Forall₂ (fun c d => Text.sameFold c d = true) mark kept) := by
  simp only [ending?, Option.or_eq_some_iff, Option.bind_eq_bind,
    Option.bind_eq_some_iff] at hending
  rcases hending with ⟨⟨found, behind⟩, hfound, hkept⟩ | ⟨-, hkept⟩
  · split at hkept
    · cases hkept
      obtain ⟨rfl, hfolded⟩ := readFolded?_eq_some hfound
      exact ⟨behind, rfl, .inr hfolded⟩
    · cases hkept
  · split at hkept
    · cases hkept
      exact ⟨rest, rfl, .inl rfl⟩
    · cases hkept

theorem readWord?_eq_some (hnamed : rename.Named)
    (hread : readWord? rename.old before text = some (kept, length)) :
    ∃ read behind, text = read ++ kept ++ behind ∧ read ≠ [] ∧ length = (read ++ kept).length ∧
      (Plain text → ∀ c ∈ read ++ kept, isNameChar c = true) := by
  unfold readWord? at hread
  split at hread
  · simp only [Option.bind_eq_bind, Option.bind_eq_some_iff, Option.pure_def, Option.some.injEq,
      Prod.mk.injEq] at hread
    obtain ⟨⟨read, rest⟩, hfound, kept, hending, rfl, rfl⟩ := hread
    obtain ⟨rfl, hfolded⟩ := readFolded?_eq_some hfound
    obtain ⟨behind, rfl, hkept⟩ := ending?_eq_some hending
    refine ⟨read, behind, (List.append_assoc _ _ _).symm, ?_, List.length_append.symm, ?_⟩
    · rintro rfl
      exact hnamed.old_ne_nil (List.forall₂_nil_right_iff.mp hfolded)
    · intro hplain c hmem
      rcases List.mem_append.mp hmem with hmem | hmem
      · exact isNameChar_of_forall₂ hnamed.old_chars hfolded
          (hplain.of_subset (List.subset_append_left _ _)) hmem
      · rcases hkept with rfl | hkept
        · exact absurd hmem List.not_mem_nil
        · refine isNameChar_of_forall₂ (fun _ => isNameChar_of_mem_mark) hkept
            (hplain.of_subset fun d hd => ?_) hmem
          exact List.mem_append_right _ (List.mem_append_left _ hd)
  · cases hread

theorem readWord?_nil (hnamed : rename.Named) (before : Option Char) :
    readWord? rename.old before [] = none := by
  cases hread : readWord? rename.old before [] with
  | none => rfl
  | some found =>
      obtain ⟨read, behind, htext, hne, -⟩ := readWord?_eq_some hnamed hread
      have hread := (List.append_eq_nil_iff.mp htext.symm).1
      exact absurd (List.append_eq_nil_iff.mp hread).1 hne

theorem lastOf_of_ne_nil (hne : read ≠ []) (before : Option Char) :
    lastOf before read = lastOf none read := by
  rw [lastOf, lastOf, List.getLast?_eq_some_getLast hne]
  rfl

theorem readWord?_behind_stop (hnamed : rename.Named) (hstop : Stops c) (text : Text) :
    readWord? rename.old (some c) text = readWord? rename.old none text := by
  have hboundary : Text.wordBoundary (some c) text.head? = Text.wordBoundary none text.head? := by
    simp [Text.wordBoundary, hstop.between]
  unfold readWord?
  rw [hboundary]
  cases hfound : readFolded? rename.old text with
  | none => rfl
  | some found =>
      obtain ⟨read, rest⟩ := found
      have hne : read ≠ [] := by
        rintro rfl
        exact hnamed.old_ne_nil (List.forall₂_nil_right_iff.mp (readFolded?_eq_some hfound).2)
      simp only [Option.bind_eq_bind, Option.bind_some, lastOf_of_ne_nil hne (some c)]

theorem apply_eq (hnamed : rename.Named) (text : Text) :
    rename.apply text = applyFrom rename 0 none text :=
  if_neg (by simp [hnamed.old_ne_nil])

theorem applyFrom_of_readWord?
    (hread : readWord? rename.old before (c :: text) = some (kept, length)) :
    applyFrom rename 0 before (c :: text) =
      rename.new ++ kept ++ applyFrom rename (length - 1) (some c) text := by
  rw [applyFrom, hread]

theorem applyFrom_of_readWord?_none (hread : readWord? rename.old before (c :: text) = none) :
    applyFrom rename 0 before (c :: text) = c :: applyFrom rename 0 (some c) text := by
  rw [applyFrom, hread]

theorem applyFrom_behind_stop (hnamed : rename.Named) (hstop : Stops c) (text : Text) :
    applyFrom rename 0 (some c) text = applyFrom rename 0 none text := by
  cases text with
  | nil => rfl
  | cons d text => rw [applyFrom, applyFrom, readWord?_behind_stop hnamed hstop]

theorem applyFrom_append_stop (hnamed : rename.Named) (hstop : Stops c)
    (hskip : skip ≤ front.length) (before : Option Char) (behind : Text) :
    applyFrom rename skip before (front ++ c :: behind) =
      applyFrom rename skip before front ++ c :: applyFrom rename 0 none behind := by
  induction front generalizing skip before with
  | nil =>
      obtain rfl : skip = 0 := Nat.le_zero.mp hskip
      have hread := readWord?_append_stop hstop hnamed.old_chars before [] behind
      rw [readWord?_nil hnamed] at hread
      rw [List.nil_append, applyFrom_of_readWord?_none hread, applyFrom_behind_stop hnamed hstop]
      rfl
  | cons d front ih =>
      cases skip with
      | succ skip => exact ih (Nat.le_of_succ_le_succ hskip) (some d)
      | zero =>
          have hread := readWord?_append_stop hstop hnamed.old_chars before (d :: front) behind
          rw [List.cons_append] at hread ⊢
          cases hfound : readWord? rename.old before (d :: front) with
          | none =>
              rw [applyFrom_of_readWord?_none hfound,
                applyFrom_of_readWord?_none (hread.trans hfound), ih (Nat.zero_le _) (some d),
                List.cons_append]
          | some found =>
              obtain ⟨kept, length⟩ := found
              obtain ⟨read, after, htext, -, rfl, -⟩ := readWord?_eq_some hnamed hfound
              have hlength : (read ++ kept).length - 1 ≤ front.length := by
                have := congrArg List.length htext
                rw [List.length_append, List.length_cons] at this
                omega
              rw [applyFrom_of_readWord? hfound, applyFrom_of_readWord? (hread.trans hfound),
                ih hlength (some d), ← List.append_assoc]

/-- What lies on either side of a stop is renamed on its own. -/
theorem apply_append_stop (hnamed : rename.Named) (hstop : Stops c) (front behind : Text) :
    rename.apply (front ++ c :: behind) = rename.apply front ++ c :: rename.apply behind := by
  rw [apply_eq hnamed, apply_eq hnamed, apply_eq hnamed]
  exact applyFrom_append_stop hnamed hstop (Nat.zero_le _) none behind

theorem apply_cons_stop (hnamed : rename.Named) (hstop : Stops c) (behind : Text) :
    rename.apply (c :: behind) = c :: rename.apply behind := by
  rw [← List.nil_append (c :: behind), apply_append_stop hnamed hstop, apply_nil, List.nil_append]

theorem apply_stops_append (hnamed : rename.Named) (hstops : ∀ c ∈ front, Stops c)
    (behind : Text) : rename.apply (front ++ behind) = front ++ rename.apply behind := by
  induction front with
  | nil => rfl
  | cons c front ih =>
      rw [List.cons_append, apply_cons_stop hnamed (hstops c List.mem_cons_self),
        ih fun d hmem => hstops d (List.mem_cons_of_mem _ hmem), List.cons_append]

theorem apply_eq_nil_iff (hnamed : rename.Named) : rename.apply text = [] ↔ text = [] := by
  constructor
  · intro hnil
    rw [apply_eq hnamed] at hnil
    cases text with
    | nil => rfl
    | cons c text =>
        cases hread : readWord? rename.old none (c :: text) with
        | none =>
            rw [applyFrom_of_readWord?_none hread] at hnil
            cases hnil
        | some found =>
            rw [applyFrom_of_readWord? hread] at hnil
            have hnew := (List.append_eq_nil_iff.mp hnil).1
            exact absurd (List.append_eq_nil_iff.mp hnew).1 hnamed.new_ne_nil
  · rintro rfl
    exact apply_nil rename

theorem mem_of_mem_applyFrom (hnamed : rename.Named) (hplain : Plain text)
    (hmem : d ∈ applyFrom rename skip before text) : isNameChar d = true ∨ d ∈ text := by
  induction text generalizing skip before with
  | nil => exact absurd hmem List.not_mem_nil
  | cons c text ih =>
      have hrest {skip before} (hmem : d ∈ applyFrom rename skip before text) :
          isNameChar d = true ∨ d ∈ c :: text :=
        (ih (hplain.of_subset (List.subset_cons_self _ _)) hmem).imp_right (List.mem_cons_of_mem _)
      cases skip with
      | succ skip => exact hrest hmem
      | zero =>
          cases hread : readWord? rename.old before (c :: text) with
          | none =>
              rw [applyFrom_of_readWord?_none hread] at hmem
              rcases List.mem_cons.mp hmem with rfl | hmem
              · exact .inr List.mem_cons_self
              · exact hrest hmem
          | some found =>
              obtain ⟨read, behind, -, -, -, hchars⟩ := readWord?_eq_some hnamed hread
              rw [applyFrom_of_readWord? hread] at hmem
              rcases List.mem_append.mp hmem with hmem | hmem
              · rcases List.mem_append.mp hmem with hmem | hmem
                · exact .inl (hnamed.new_chars d hmem)
                · exact .inl (hchars hplain d (List.mem_append_right read hmem))
              · exact hrest hmem

theorem mem_applyFrom_of_mem (hnamed : rename.Named) (hplain : Plain text)
    (hskipped : ∀ c ∈ text.take skip, isNameChar c = true) (hmem : d ∈ text) :
    isNameChar d = true ∨ d ∈ applyFrom rename skip before text := by
  induction text generalizing skip before with
  | nil => exact absurd hmem List.not_mem_nil
  | cons c text ih =>
      have hbehind := hplain.of_subset (List.subset_cons_self c text)
      cases skip with
      | succ skip =>
          rcases List.mem_cons.mp hmem with rfl | hmem
          · exact .inl (hskipped d List.mem_cons_self)
          · exact ih hbehind (fun e he => hskipped e (List.mem_cons_of_mem _ he)) hmem
      | zero =>
          cases hread : readWord? rename.old before (c :: text) with
          | none =>
              rw [applyFrom_of_readWord?_none hread]
              rcases List.mem_cons.mp hmem with rfl | hmem
              · exact .inr List.mem_cons_self
              · exact (ih hbehind (by simp) hmem).imp_right (List.mem_cons_of_mem _)
          | some found =>
              obtain ⟨kept, length⟩ := found
              obtain ⟨read, behind, htext, hne, rfl, hchars⟩ := readWord?_eq_some hnamed hread
              obtain ⟨e, read, rfl⟩ := List.exists_cons_of_ne_nil hne
              rw [List.cons_append, List.cons_append] at htext
              obtain ⟨rfl, rfl⟩ := List.cons.inj htext
              rw [applyFrom_of_readWord? hread]
              have hword := hchars hplain
              rcases List.mem_cons.mp hmem with rfl | hmem
              · exact .inl (hword d List.mem_cons_self)
              · refine (ih hbehind (fun f hf => ?_) hmem).imp_right (List.mem_append_right _)
                rw [List.cons_append, List.length_cons, Nat.add_sub_cancel, List.take_left] at hf
                exact hword f (List.mem_cons_of_mem _ hf)

theorem mem_of_mem_apply (hnamed : rename.Named) (hplain : Plain text)
    (hmem : d ∈ rename.apply text) : isNameChar d = true ∨ d ∈ text := by
  rw [apply_eq hnamed] at hmem
  exact mem_of_mem_applyFrom hnamed hplain hmem

theorem mem_apply_of_mem (hnamed : rename.Named) (hplain : Plain text) (hmem : d ∈ text) :
    isNameChar d = true ∨ d ∈ rename.apply text := by
  rw [apply_eq hnamed]
  exact mem_applyFrom_of_mem hnamed hplain (by simp) hmem

theorem Stops.mem_apply_iff (hstop : Stops c) (hnamed : rename.Named) (hplain : Plain text) :
    c ∈ rename.apply text ↔ c ∈ text := by
  have hchar : isNameChar c ≠ true := by simp [hstop.isNameChar_eq_false]
  exact ⟨fun hmem => (mem_of_mem_apply hnamed hplain hmem).resolve_left hchar,
    fun hmem => (mem_apply_of_mem hnamed hplain hmem).resolve_left hchar⟩

theorem eq_of_append_stop {other after : Text} (hfront : c ∉ front) (hother : c ∉ other)
    (heq : front ++ c :: behind = other ++ c :: after) : front = other ∧ behind = after := by
  induction front generalizing other with
  | nil =>
      cases other with
      | nil => exact ⟨rfl, (List.cons.inj heq).2⟩
      | cons d other => exact absurd ((List.cons.inj heq).1 ▸ List.mem_cons_self) hother
  | cons d front ih =>
      cases other with
      | nil => exact absurd ((List.cons.inj heq).1 ▸ List.mem_cons_self) hfront
      | cons e other =>
          obtain ⟨rfl, hrest⟩ := List.cons.inj heq
          obtain ⟨rfl, hafter⟩ := ih (fun hmem => hfront (List.mem_cons_of_mem _ hmem))
            (fun hmem => hother (List.mem_cons_of_mem _ hmem)) hrest
          exact ⟨rfl, hafter⟩

theorem exists_of_apply_eq (hnamed : rename.Named) (hplain : Plain text) (hstop : Stops c)
    (hfront : c ∉ front) (happly : rename.apply text = front ++ c :: behind) :
    ∃ ahead after, text = ahead ++ c :: after ∧ rename.apply ahead = front ∧
      rename.apply after = behind := by
  have hmem : c ∈ rename.apply text :=
    happly ▸ List.mem_append_right front List.mem_cons_self
  obtain ⟨ahead, after, rfl, hahead⟩ :=
    List.eq_append_cons_of_mem ((hstop.mem_apply_iff hnamed hplain).mp hmem)
  have hplainAhead : Plain ahead := hplain.of_subset (List.subset_append_left _ _)
  rw [apply_append_stop hnamed hstop] at happly
  obtain ⟨hfound, hbehind⟩ := eq_of_append_stop
    (fun hmem => hahead ((hstop.mem_apply_iff hnamed hplainAhead).mp hmem)) hfront happly
  exact ⟨ahead, after, rfl, hfound, hbehind⟩

theorem exists_of_apply_eq_stops (hnamed : rename.Named) (hplain : Plain text)
    (hstops : ∀ c ∈ front, Stops c) (happly : rename.apply text = front ++ behind) :
    ∃ after, text = front ++ after ∧ rename.apply after = behind := by
  induction front generalizing text with
  | nil => exact ⟨text, rfl, happly⟩
  | cons c front ih =>
      have hfirst : rename.apply text = [] ++ c :: (front ++ behind) := happly
      obtain ⟨ahead, rest, rfl, hahead, hrest⟩ := exists_of_apply_eq hnamed hplain
        (hstops c List.mem_cons_self) List.not_mem_nil hfirst
      obtain rfl := (apply_eq_nil_iff hnamed).mp hahead
      obtain ⟨after, rfl, hafter⟩ := ih
        (hplain.of_subset (List.subset_cons_self _ _))
        (fun d hmem => hstops d (List.mem_cons_of_mem _ hmem)) hrest
      exact ⟨after, rfl, hafter⟩

end Transclusion.Rename
