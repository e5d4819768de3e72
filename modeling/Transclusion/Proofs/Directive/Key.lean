import Transclusion.Directive.Basic
import Transclusion.Directive.Word
import Transclusion.Proofs.Text.Split

namespace Transclusion

/-! The key of a directive tells what the directive asks for. Read as a directive of its own, it asks
for the same again. -/

namespace Directive

variable {known : List Text} {text : Text} {directive other : Directive}

theorem splitFlags_fst_subset (known parts : List Text) :
    (splitFlags known parts).1 ⊆ parts := by
  conv => rhs; rw [← splitFlags_append known parts]
  exact List.subset_append_left _ _

theorem splitFlags_fst (known parts : List Text) :
    splitFlags known (splitFlags known parts).1 = ((splitFlags known parts).1, []) := by
  have hkept : (splitFlags known (splitFlags known parts).1).1 = (splitFlags known parts).1 := by
    exact List.rdropWhile_idempotent known.contains parts
  have happend := splitFlags_append known (splitFlags known parts).1
  rw [hkept, List.append_right_eq_self] at happend
  exact Prod.ext hkept happend

theorem parse?_eq_some_iff :
    parse? known text = some directive ↔
      ∃ templateRef parts, Text.split '|' (strip text) = templateRef :: parts ∧
        templateRef ≠ [] ∧
        directive = {
          key := Text.join ['|'] (templateRef :: (splitFlags known parts).1)
          templateRef
          dataRef := (splitFlags known parts).1.head?.filter (!·.isEmpty)
          flags := (splitFlags known parts).2 } := by
  unfold parse?
  split
  · next hsplit => simp [hsplit]
  · next templateRef parts hsplit =>
      rw [hsplit]
      split
      · next hempty => simp_all
      · next hempty =>
          rw [List.isEmpty_iff] at hempty
          constructor
          · intro hparse
            cases hparse
            exact ⟨templateRef, parts, rfl, hempty, rfl⟩
          · rintro ⟨templateRef', parts', heq, -, rfl⟩
            cases heq
            rfl

theorem split_join_splitFlags {templateRef : Text} {parts : List Text}
    (hsplit : Text.split '|' text = templateRef :: parts) (known : List Text) :
    Text.split '|' (Text.join ['|'] (templateRef :: (splitFlags known parts).1)) =
      templateRef :: (splitFlags known parts).1 := by
  apply Text.split_join
  · intro part hpart
    have hmem : part ∈ Text.split '|' text := by
      rw [hsplit]
      exact List.cons_subset_cons _ (splitFlags_fst_subset known parts) hpart
    exact Text.notMem_of_mem_split hmem
  · exact List.cons_ne_nil _ _

theorem split_key (hparse : parse? known text = some directive) :
    ∃ kept, Text.split '|' directive.key = directive.templateRef :: kept ∧
      splitFlags known kept = (kept, []) ∧
      directive.dataRef = kept.head?.filter (!·.isEmpty) := by
  obtain ⟨templateRef, parts, hsplit, -, rfl⟩ := parse?_eq_some_iff.mp hparse
  exact ⟨(splitFlags known parts).1, split_join_splitFlags hsplit known,
    splitFlags_fst known parts, rfl⟩

/-- The key and the flags share out the parts of the text, and keep them in order. -/
theorem split_key_append_flags (hparse : parse? known text = some directive) :
    Text.split '|' directive.key ++ directive.flags = Text.split '|' (strip text) := by
  obtain ⟨templateRef, parts, hsplit, -, rfl⟩ := parse?_eq_some_iff.mp hparse
  rw [split_join_splitFlags hsplit known, hsplit, List.cons_append, splitFlags_append]

theorem mem_of_mem_flags (hparse : parse? known text = some directive) {flag : Text}
    (hflag : flag ∈ directive.flags) : flag ∈ known := by
  obtain ⟨templateRef, parts, -, -, rfl⟩ := parse?_eq_some_iff.mp hparse
  have hknown : known.contains flag = true := List.mem_rtakeWhile_imp hflag
  exact List.contains_iff_mem.mp hknown

theorem eq_nil_of_split_key (hparse : parse? known text = some directive) {kept : List Text}
    {last : Text} (hsplit : Text.split '|' directive.key = kept ++ [last])
    (hlast : last ∈ known) : kept = [] := by
  obtain ⟨parts, hparts, hkept, -⟩ := split_key hparse
  cases kept with
  | nil => rfl
  | cons first kept =>
      rw [hparts, List.cons_append] at hsplit
      obtain ⟨-, rfl⟩ := List.cons.inj hsplit
      have hself : (kept ++ [last]).rdropWhile known.contains = kept ++ [last] :=
        congrArg Prod.fst hkept
      have hne := List.rdropWhile_eq_self_iff.mp hself (List.concat_ne_nil last kept)
      rw [List.getLast_append_singleton, List.contains_iff_mem] at hne
      exact absurd hlast hne

theorem parse?_eq_none_iff :
    parse? known text = none ↔ (Text.split '|' (strip text)).head? = some [] := by
  have hne : Text.split '|' (strip text) ≠ [] := List.splitOn_ne_nil _ _
  unfold parse?
  split
  · next hsplit => exact absurd hsplit hne
  · next templateRef parts hsplit =>
      rw [hsplit, List.head?_cons, Option.some.injEq]
      split
      · next hempty => exact ⟨fun _ => List.isEmpty_iff.mp hempty, fun _ => rfl⟩
      · next hempty =>
          rw [List.isEmpty_iff] at hempty
          constructor
          · intro hnone
            cases hnone
          · intro heq
            exact absurd heq hempty

theorem templateRef_ne_nil (hparse : parse? known text = some directive) :
    directive.templateRef ≠ [] := by
  obtain ⟨templateRef, parts, -, hnonempty, rfl⟩ := parse?_eq_some_iff.mp hparse
  exact hnonempty

theorem dataRef_ne_nil (hparse : parse? known text = some directive) :
    directive.dataRef ≠ some [] := by
  obtain ⟨kept, -, -, hdata⟩ := split_key hparse
  intro hempty
  rw [hempty] at hdata
  have hfilter := (Option.filter_eq_some_iff.mp hdata.symm).2
  cases hfilter

theorem refs_eq_of_key_eq {known' : List Text} {text' : Text}
    (hparse : parse? known text = some directive) (hparse' : parse? known' text' = some other)
    (hkey : directive.key = other.key) :
    directive.templateRef = other.templateRef ∧ directive.dataRef = other.dataRef := by
  obtain ⟨kept, hsplit, -, hdata⟩ := split_key hparse
  obtain ⟨kept', hsplit', -, hdata'⟩ := split_key hparse'
  rw [hkey, hsplit'] at hsplit
  obtain ⟨htemplate, rfl⟩ := List.cons.inj hsplit
  exact ⟨htemplate.symm, hdata.trans hdata'.symm⟩

theorem key_isPrefix (hparse : parse? known text = some directive) :
    directive.key <+: strip text := by
  obtain ⟨templateRef, parts, hsplit, -, rfl⟩ := parse?_eq_some_iff.mp hparse
  have hjoin : Text.join ['|'] (templateRef :: parts) = strip text := by
    rw [← hsplit]
    exact List.intercalate_splitOn '|'
  have hfront := Text.isPrefix_join '|' (templateRef :: (splitFlags known parts).1)
    (splitFlags known parts).2
  rw [List.cons_append, splitFlags_append, hjoin] at hfront
  exact hfront

def IsPlain (text : Text) : Prop :=
  ∀ c ∈ text, Text.isBlank c = false ∧ c ≠ '{' ∧ c ≠ '}'

theorem strip_of_isPlain (hplain : IsPlain text) : strip text = text := by
  have hcompact : text.filter (!Text.isBlank ·) = text := by
    rw [List.filter_eq_self]
    intro c hmem
    rw [(hplain c hmem).1, Bool.not_false]
  have htrim : Text.trimEnd (· == '}') text = text :=
    Text.trimEnd_eq_self fun c hmem => beq_eq_false_iff_ne.mpr (hplain c hmem).2.2
  simp only [strip, hcompact]
  cases text with
  | nil => rfl
  | cons c rest =>
      split
      · next heq =>
          cases heq
          exact absurd rfl (hplain '{' List.mem_cons_self).2.1
      · exact htrim

theorem parse?_key (hparse : parse? known text = some directive) (hplain : IsPlain directive.key) :
    parse? known directive.key = some { directive with flags := [] } := by
  obtain ⟨kept, hsplit, hkept, hdata⟩ := split_key hparse
  refine parse?_eq_some_iff.mpr ⟨directive.templateRef, kept, ?_, templateRef_ne_nil hparse, ?_⟩
  · rw [strip_of_isPlain hplain, hsplit]
  · have hkey : Text.join ['|'] (directive.templateRef :: kept) = directive.key := by
      rw [← hsplit]
      exact List.intercalate_splitOn '|'
    rw [hkept, hkey, ← hdata]

namespace Word

variable {word : Word}

theorem isPlain_body (hvalid : word.Valid) : IsPlain (word.body.filter (!Text.isBlank ·)) := by
  intro c hmem
  obtain ⟨hbody, hblank⟩ := List.mem_filter.mp hmem
  have hchar := hvalid.body c hbody
  refine ⟨by simpa using hblank, ?_, ?_⟩
  · rintro rfl
    exact absurd hchar (by decide)
  · rintro rfl
    exact absurd hchar (by decide)

theorem strip_text (hvalid : word.Valid) :
    strip word.text = word.body.filter (!Text.isBlank ·) := by
  have hblanks : word.blanks.filter (!Text.isBlank ·) = [] := by
    rw [List.filter_eq_nil_iff]
    intro c hmem
    simp [Text.isBlank_of_isAsciiBlank (hvalid.blanks c hmem)]
  have htrim : ∀ closing : Text, (∀ c ∈ closing, c = '}') →
      Text.trimEnd (· == '}') (word.body.filter (!Text.isBlank ·) ++ closing) =
        word.body.filter (!Text.isBlank ·) := by
    intro closing hclosing
    apply Text.trimEnd_append
    · exact fun c hmem => beq_eq_false_iff_ne.mpr (isPlain_body hvalid c hmem).2.2
    · exact fun c hmem => beq_iff_eq.mpr (hclosing c hmem)
  have hcompact : word.text.filter (!Text.isBlank ·) =
      (if word.wideOpen then ['{', '{', '{'] else ['{', '{']) ++
        '>' :: (word.body.filter (!Text.isBlank ·) ++
          (if word.wideClose then ['}', '}', '}'] else ['}', '}'])) := by
    unfold text
    simp only [List.filter_append, List.filter_cons, hblanks]
    cases word.wideOpen <;> cases word.wideClose <;> rfl
  simp only [strip, hcompact]
  cases word.wideOpen with
  | false =>
      apply htrim
      cases word.wideClose <;> simp
  | true =>
      apply htrim
      cases word.wideClose <;> simp

/-- The key of a word of the grammar asks for the same as the word, without flags. -/
theorem parse?_key (hvalid : word.Valid) (hparse : parse? known word.text = some directive) :
    parse? known directive.key = some { directive with flags := [] } := by
  apply Directive.parse?_key hparse
  have hfront := key_isPrefix hparse
  rw [strip_text hvalid] at hfront
  exact fun c hmem => isPlain_body hvalid c (hfront.subset hmem)

end Word

end Directive

end Transclusion
