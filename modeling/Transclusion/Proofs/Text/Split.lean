import Mathlib.Data.List.DropRight
import Transclusion.Text.Basic

namespace Transclusion.Text

/-! The parts of a text between separators, and what trimming leaves of it. -/

@[simp] theorem split_nil (separator : Char) : split separator [] = [[]] := rfl

theorem notMem_of_mem_split {separator : Char} {text part : Text}
    (hpart : part ∈ split separator text) : separator ∉ part := by
  induction text generalizing part with
  | nil =>
      rw [split, List.splitOn_nil, List.mem_singleton] at hpart
      rw [hpart]
      exact List.not_mem_nil
  | cons c rest ih =>
      rw [split, List.splitOn_cons_eq_if_modifyHead] at hpart
      split at hpart
      · rcases List.mem_cons.mp hpart with rfl | hpart
        · exact List.not_mem_nil
        · exact ih hpart
      · next hc =>
          cases hsplit : rest.splitOn separator with
          | nil => exact absurd hsplit (List.splitOn_ne_nil _ _)
          | cons first parts =>
              rw [hsplit, List.modifyHead_cons] at hpart
              have hfirst : separator ∉ first := ih (by rw [split, hsplit]; exact List.mem_cons_self)
              rcases List.mem_cons.mp hpart with rfl | hpart
              · intro hmem
                rcases List.mem_cons.mp hmem with rfl | hmem
                · exact hc (beq_self_eq_true _)
                · exact hfirst hmem
              · exact ih (by rw [split, hsplit]; exact List.mem_cons_of_mem _ hpart)

theorem split_join {separator : Char} {parts : List Text}
    (hparts : ∀ part ∈ parts, separator ∉ part) (hne : parts ≠ []) :
    split separator (join [separator] parts) = parts :=
  List.splitOn_intercalate separator hparts hne

theorem split_append (separator : Char) (first second : Text) :
    split separator (first ++ separator :: second) =
      split separator first ++ split separator second :=
  List.splitOn_append_cons_self first second

theorem length_split (separator : Char) (text : Text) :
    (split separator text).length = text.count separator + 1 := by
  induction text with
  | nil => rfl
  | cons c rest ih =>
      rw [split, List.splitOn_cons_eq_if_modifyHead, List.count_cons]
      split
      · exact congrArg (· + 1) ih
      · rw [List.length_modifyHead]
        exact ih

theorem isPrefix_join (separator : Char) (first second : List Text) :
    join [separator] first <+: join [separator] (first ++ second) := by
  induction first with
  | nil => exact List.nil_prefix
  | cons part first ih =>
      cases first with
      | nil =>
          cases second with
          | nil => exact List.prefix_rfl
          | cons other second =>
              simp only [join, List.singleton_append, List.intercalate_cons_cons,
                List.intercalate_singleton, List.append_assoc]
              exact List.prefix_append _ _
      | cons other first =>
          simp only [join, List.cons_append, List.intercalate_cons_cons] at ih ⊢
          exact (List.prefix_append_right_inj _).mpr ih

theorem trimEnd_eq_self {p : Char → Bool} {text : Text} (hkeeps : ∀ c ∈ text, p c = false) :
    trimEnd p text = text := by
  refine List.rdropWhile_eq_self_iff.mpr fun hne => ?_
  rw [hkeeps _ (List.getLast_mem hne)]
  exact Bool.false_ne_true

theorem trimEnd_append {p : Char → Bool} {text behind : Text} (hkeeps : ∀ c ∈ text, p c = false)
    (hdrops : ∀ c ∈ behind, p c = true) : trimEnd p (text ++ behind) = text := by
  unfold trimEnd
  rw [List.reverse_append, List.dropWhile_append_of_pos]
  · exact trimEnd_eq_self hkeeps
  · exact fun c hmem => hdrops c (List.mem_reverse.mp hmem)

/-- What a text holds but for the characters of a class around it. -/
structure Core (p : Char → Bool) (text core : Text) : Prop where
  within : ∃ ahead behind, text = ahead ++ (core ++ behind) ∧ (∀ c ∈ ahead, p c = true) ∧
    ∀ c ∈ behind, p c = true
  head_keeps : ∀ c, core.head? = some c → p c = false
  last_keeps : ∀ c, core.getLast? = some c → p c = false

theorem trimStart_append {p : Char → Bool} {ahead text : Text} (hdrops : ∀ c ∈ ahead, p c = true)
    (hhead : ∀ c, text.head? = some c → p c = false) : trimStart p (ahead ++ text) = text := by
  unfold trimStart
  rw [List.dropWhile_append_of_pos hdrops]
  cases text with
  | nil => rfl
  | cons c rest => exact List.dropWhile_cons_of_neg (by simp [hhead c rfl])

theorem trim_eq_iff {p : Char → Bool} {text core : Text} :
    trim p text = core ↔ Core p text core := by
  constructor
  · rintro rfl
    have hrest : trim p text ++ (text.dropWhile p).rtakeWhile p = text.dropWhile p :=
      List.rdropWhile_append_rtakeWhile
    refine ⟨⟨text.takeWhile p, (text.dropWhile p).rtakeWhile p, ?_, ?_, ?_⟩, ?_, ?_⟩
    · rw [hrest, List.takeWhile_append_dropWhile]
    · exact fun c hmem => List.mem_takeWhile_imp hmem
    · exact fun c hmem => List.mem_rtakeWhile_imp hmem
    · intro c hhead
      obtain ⟨rest, hcore⟩ := List.head?_eq_some_iff.mp hhead
      rw [hcore, List.cons_append] at hrest
      have hfirst := List.head?_dropWhile_not p text
      rw [← hrest] at hfirst
      simpa using hfirst
    · intro c hlast
      obtain ⟨front, hcore⟩ := List.getLast?_eq_some_iff.mp hlast
      have hkept := List.rdropWhile_last_not p (text.dropWhile p)
      change ∀ hne : trim p text ≠ [], ¬ p ((trim p text).getLast hne) = true at hkept
      simp only [hcore] at hkept
      simpa using hkept
  · rintro ⟨⟨ahead, behind, rfl, hahead, hbehind⟩, hhead, hlast⟩
    rcases List.eq_nil_or_concat' core with rfl | ⟨front, c, rfl⟩
    · rw [List.nil_append, trim, trimStart, List.dropWhile_eq_nil_iff.mpr]
      · rfl
      · intro c hmem
        rcases List.mem_append.mp hmem with hmem | hmem
        · exact hahead c hmem
        · exact hbehind c hmem
    · have hstart : trimStart p (ahead ++ (front ++ [c] ++ behind)) = front ++ [c] ++ behind := by
        apply trimStart_append hahead
        intro d hd
        apply hhead d
        cases front <;> simpa using hd
      have hc : p c = false := hlast c List.getLast?_concat
      rw [trim, hstart, trimEnd, List.reverse_append, List.dropWhile_append_of_pos]
      · rw [List.reverse_append, List.reverse_singleton, List.singleton_append,
          List.dropWhile_cons_of_neg (by simp [hc]), List.reverse_cons, List.reverse_reverse]
      · exact fun d hmem => hbehind d (List.mem_reverse.mp hmem)

end Transclusion.Text
