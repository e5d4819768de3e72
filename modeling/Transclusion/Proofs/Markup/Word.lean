import Transclusion.Markup

namespace Transclusion

/-! Where directives begin: at each place from which on a word of their grammar can be read, unless
an earlier directive takes it up. -/

namespace Directive.Word

private theorem openBraces?_narrow {tail : Text} (hhead : tail.head? ≠ some '{') :
    openBraces? ('{' :: '{' :: tail) = some (false, tail) := by
  cases tail with
  | nil => rfl
  | cons c rest =>
      have hc : c ≠ '{' := fun heq => hhead (by rw [heq]; rfl)
      unfold openBraces?
      split
      · next heq => simp_all
      · next heq => simp_all
      · next hnone => exact absurd rfl (hnone (c :: rest))

private theorem openBraces?_opening (wide : Bool) {tail : Text}
    (hhead : tail.head? ≠ some '{') :
    openBraces? ((if wide then ['{', '{', '{'] else ['{', '{']) ++ tail) =
      some (wide, tail) := by
  cases wide with
  | true => rfl
  | false => exact openBraces?_narrow hhead

private theorem closeBraces?_closing (wide : Bool) (rest : Text) :
    ∃ found, closeBraces? ((if wide then ['}', '}', '}'] else ['}', '}']) ++ rest) =
      some found := by
  cases wide with
  | true => exact ⟨(true, rest), rfl⟩
  | false =>
      change ∃ found, closeBraces? ('}' :: '}' :: rest) = some found
      unfold closeBraces?
      split
      · exact ⟨_, rfl⟩
      · exact ⟨_, rfl⟩
      · next hnone => exact absurd rfl (hnone rest)

private theorem head?_blanks_ne {blanks rest : Text}
    (hblanks : ∀ c ∈ blanks, Text.isAsciiBlank c = true) :
    (blanks ++ '>' :: rest).head? ≠ some '{' := by
  cases blanks with
  | nil => simp
  | cons c blanks =>
      intro heq
      have hc : c = '{' := Option.some.inj heq
      have := hblanks c List.mem_cons_self
      rw [hc] at this
      exact absurd this (by decide)

theorem dropWhile_blanks {blanks rest : Text}
    (hblanks : ∀ c ∈ blanks, Text.isAsciiBlank c = true) :
    (blanks ++ '>' :: rest).dropWhile Text.isAsciiBlank = '>' :: rest := by
  rw [List.dropWhile_append_of_pos hblanks]
  exact List.dropWhile_cons_of_neg (by decide)

private theorem dropWhile_body {body rest : Text} (wide : Bool)
    (hbody : ∀ c ∈ body, isBodyChar c = true) :
    (body ++ ((if wide then ['}', '}', '}'] else ['}', '}']) ++ rest)).dropWhile isBodyChar =
      (if wide then ['}', '}', '}'] else ['}', '}']) ++ rest := by
  rw [List.dropWhile_append_of_pos hbody]
  cases wide <;> exact List.dropWhile_cons_of_neg (by decide)

private theorem text_append (word : Word) (rest : Text) :
    word.text ++ rest =
      (if word.wideOpen then ['{', '{', '{'] else ['{', '{']) ++
        (word.blanks ++ '>' :: (word.body ++
          ((if word.wideClose then ['}', '}', '}'] else ['}', '}']) ++ rest))) := by
  simp [text, List.append_assoc]

/-- A word can be read off whatever follows it. What is read may be longer by a brace. -/
theorem exists_read?_text_append {word : Word} (hvalid : word.Valid) (rest : Text) :
    ∃ found, read? (word.text ++ rest) = some found := by
  obtain ⟨⟨wideClose, after⟩, hclose⟩ := closeBraces?_closing word.wideClose rest
  unfold read?
  rw [text_append, openBraces?_opening word.wideOpen (head?_blanks_ne hvalid.blanks)]
  simp only [dropWhile_blanks hvalid.blanks, dropWhile_body word.wideClose hvalid.body, hclose]
  exact ⟨_, rfl⟩

theorem text_ne_nil (word : Word) : word.text ≠ [] :=
  List.ne_nil_of_length_pos (length_text_pos word)

/-- No brace that could still close the word comes behind it. -/
def Full (word : Word) (after : Text) : Prop :=
  word.wideClose = false → after.head? ≠ some '}'

private theorem closeBraces?_full {wide : Bool} {after : Text}
    (hfull : wide = false → after.head? ≠ some '}') :
    closeBraces? ((if wide then ['}', '}', '}'] else ['}', '}']) ++ after) =
      some (wide, after) := by
  cases wide with
  | true => rfl
  | false =>
      have hhead := hfull rfl
      cases after with
      | nil => rfl
      | cons c rest =>
          have hc : c ≠ '}' := fun heq => hhead (by rw [heq]; rfl)
          change closeBraces? ('}' :: '}' :: c :: rest) = _
          unfold closeBraces?
          split
          · next heq => simp_all
          · next heq => simp_all
          · next hnone => exact absurd rfl (hnone (c :: rest))

private theorem full_of_closeBraces? {wide : Bool} {text after : Text}
    (hclose : closeBraces? text = some (wide, after)) (hwide : wide = false) :
    after.head? ≠ some '}' := by
  subst hwide
  unfold closeBraces? at hclose
  split at hclose
  · simp at hclose
  · next hthird =>
      intro hhead
      obtain ⟨rest, rfl⟩ := List.head?_eq_some_iff.mp hhead
      simp only [Option.some.injEq, Prod.mk.injEq, true_and] at hclose
      exact hthird rest (by rw [hclose])
  · simp at hclose

theorem full_of_read? {text after : Text} {word : Word} (hread : read? text = some (word, after)) :
    word.Full after := by
  unfold read? at hread
  split at hread
  · simp at hread
  · split at hread
    · split at hread
      · simp at hread
      · next hclose =>
          cases hread
          exact full_of_closeBraces? hclose
    · simp at hread

theorem takeWhile_blanks {blanks rest : Text}
    (hblanks : ∀ c ∈ blanks, Text.isAsciiBlank c = true) :
    (blanks ++ '>' :: rest).takeWhile Text.isAsciiBlank = blanks := by
  rw [List.takeWhile_append_of_pos hblanks, List.takeWhile_cons_of_neg (by decide),
    List.append_nil]

private theorem takeWhile_body {body rest : Text} (wide : Bool)
    (hbody : ∀ c ∈ body, isBodyChar c = true) :
    (body ++ ((if wide then ['}', '}', '}'] else ['}', '}']) ++ rest)).takeWhile isBodyChar =
      body := by
  rw [List.takeWhile_append_of_pos hbody]
  cases wide <;> exact List.append_nil body

theorem read?_eq_some_iff {text after : Text} {word : Word} :
    read? text = some (word, after) ↔
      word.Valid ∧ text = word.text ++ after ∧ word.Full after := by
  constructor
  · intro hread
    exact ⟨read?_valid hread, read?_text hread, full_of_read? hread⟩
  · rintro ⟨hvalid, rfl, hfull⟩
    unfold read?
    rw [text_append, openBraces?_opening word.wideOpen (head?_blanks_ne hvalid.blanks)]
    simp only [dropWhile_blanks hvalid.blanks, dropWhile_body word.wideClose hvalid.body,
      closeBraces?_full hfull, takeWhile_blanks hvalid.blanks,
      takeWhile_body word.wideClose hvalid.body]

end Directive.Word

namespace Markup

open Directive

def Wordless (text : Text) : Prop :=
  ∀ word : Word, word.Valid → ¬ word.text <:+: text

theorem wordless_nil : Wordless [] := fun word _ hword =>
  word.text_ne_nil (List.eq_nil_of_infix_nil hword)

theorem Wordless.of_part {part text : Text} (htext : Wordless text) (hpart : part <:+: text) :
    Wordless part := fun word hvalid hword =>
  htext word hvalid (List.IsInfix.trans hword hpart)

theorem wordless_cons {c : Char} {rest : Text} (hread : Word.read? (c :: rest) = none)
    (hrest : Wordless rest) : Wordless (c :: rest) := by
  intro word hvalid hword
  rcases List.infix_cons_iff.mp hword with ⟨after, hfront⟩ | hword
  · obtain ⟨found, hfound⟩ := Word.exists_read?_text_append hvalid after
    rw [hfront, hread] at hfound
    simp at hfound
  · exact hrest word hvalid hword

theorem read?_eq_none_of_wordless {text : Text} (hwordless : Wordless text) :
    Word.read? text = none := by
  cases hread : Word.read? text with
  | none => rfl
  | some found =>
      obtain ⟨word, rest⟩ := found
      refine absurd ?_ (hwordless word (Word.read?_valid hread))
      rw [Word.read?_text hread]
      exact List.infix_append_left

theorem read?_eq_none_of_isPrefix {c : Char} {text stretch : Text}
    (hread : Word.read? (c :: text) = none) (hstretch : stretch <+: text) :
    Word.read? (c :: stretch) = none := by
  cases hfound : Word.read? (c :: stretch) with
  | none => rfl
  | some found =>
      obtain ⟨word, behind⟩ := found
      obtain ⟨after, rfl⟩ := hstretch
      obtain ⟨whole, hwhole⟩ :=
        Word.exists_read?_text_append (Word.read?_valid hfound) (behind ++ after)
      rw [← List.append_assoc, ← Word.read?_text hfound, List.cons_append, hread] at hwhole
      cases hwhole

theorem directives_of_read? {text after : Text} {word : Word}
    (hread : Word.read? text = some (word, after)) :
    directives text = word.text :: directives after := by
  rw [directives, tokens_of_read? hread]
  rfl

theorem directives_of_read?_none {c : Char} {rest : Text} (hread : Word.read? (c :: rest) = none) :
    directives (c :: rest) = directives rest := by
  rw [directives, tokens_of_read?_none hread]
  rfl

theorem directives_eq_nil_iff (text : Text) : directives text = [] ↔ Wordless text := by
  induction text with
  | nil => exact ⟨fun _ => wordless_nil, fun _ => rfl⟩
  | cons c rest ih =>
      constructor
      · intro hnone
        cases hread : Word.read? (c :: rest) with
        | none =>
            rw [directives_of_read?_none hread] at hnone
            exact wordless_cons hread (ih.mp hnone)
        | some found =>
            obtain ⟨word, after⟩ := found
            rw [directives_of_read? hread] at hnone
            cases hnone
      · intro hwordless
        have hread := read?_eq_none_of_wordless hwordless
        have hrest := ih.mpr (hwordless.of_part (List.suffix_cons c rest).isInfix)
        rw [directives_of_read?_none hread]
        exact hrest

theorem mem_directives {text word : Text} :
    word ∈ directives text ↔ .directive word ∈ tokens text := by
  unfold directives
  rw [List.mem_filterMap]
  constructor
  · rintro ⟨token, hmem, htoken⟩
    cases token with
    | char c => simp at htoken
    | directive found => simpa [Option.some.inj htoken] using hmem
  · intro hmem
    exact ⟨_, hmem, rfl⟩

theorem tokens_eq_char_cons {text : Text} {c : Char} {rest : List Token}
    (htokens : tokens text = .char c :: rest) :
    ∃ after, text = c :: after ∧ Word.read? (c :: after) = none ∧ tokens after = rest := by
  cases text with
  | nil => cases htokens
  | cons first after =>
      cases hread : Word.read? (first :: after) with
      | none =>
          rw [tokens_of_read?_none hread] at htokens
          cases htokens
          exact ⟨after, rfl, hread, rfl⟩
      | some found =>
          obtain ⟨word, behind⟩ := found
          rw [tokens_of_read? hread] at htokens
          cases htokens

theorem tokens_eq_directive_cons {text word : Text} {rest : List Token}
    (htokens : tokens text = .directive word :: rest) : ∃ after, tokens after = rest := by
  cases text with
  | nil => cases htokens
  | cons first after =>
      cases hread : Word.read? (first :: after) with
      | none =>
          rw [tokens_of_read?_none hread] at htokens
          cases htokens
      | some found =>
          obtain ⟨word, behind⟩ := found
          rw [tokens_of_read? hread] at htokens
          cases htokens
          exact ⟨behind, rfl⟩

/-- A text is nothing, or begins with a character that no directive begins with, or begins with a
directive. -/
theorem scan_induction {motive : Text → Prop} (nil : motive [])
    (char : ∀ c rest, Word.read? (c :: rest) = none → motive rest → motive (c :: rest))
    (word : ∀ text word after, Word.read? text = some (word, after) → motive after → motive text)
    (text : Text) : motive text := by
  induction hlength : text.length using Nat.strongRecOn generalizing text with
  | _ length ih =>
      cases hread : Word.read? text with
      | none =>
          cases text with
          | nil => exact nil
          | cons c rest =>
              rw [List.length_cons] at hlength
              exact char c rest hread (ih rest.length (by omega) rest rfl)
      | some found =>
          obtain ⟨found, after⟩ := found
          have hshorter : after.length < length := by
            have := found.length_text_pos
            rw [← hlength, Word.read?_text hread, List.length_append]
            omega
          exact word text found after hread (ih after.length hshorter after rfl)

theorem exists_front {text word : Text} {earlier later : List Text}
    (hdirectives : directives text = earlier ++ word :: later) :
    ∃ front back, text = front ++ (word ++ back) ∧ directives front = earlier := by
  induction text using scan_induction generalizing earlier with
  | nil =>
      have hmem : word ∈ directives [] := hdirectives ▸ List.mem_append_right _ List.mem_cons_self
      exact absurd hmem List.not_mem_nil
  | char c rest hread ih =>
      rw [directives_of_read?_none hread] at hdirectives
      obtain ⟨front, back, rfl, hfront⟩ := ih hdirectives
      refine ⟨c :: front, back, rfl, ?_⟩
      rw [directives_of_read?_none (read?_eq_none_of_isPrefix hread (List.prefix_append _ _))]
      exact hfront
  | word text found after hread ih =>
      obtain ⟨hvalid, rfl, hfull⟩ := Word.read?_eq_some_iff.mp hread
      rw [directives_of_read? hread] at hdirectives
      cases earlier with
      | nil =>
          obtain ⟨rfl, -⟩ := List.cons.inj hdirectives
          exact ⟨[], after, rfl, rfl⟩
      | cons first earlier =>
          obtain ⟨rfl, hbehind⟩ := List.cons.inj hdirectives
          obtain ⟨front, back, rfl, hfront⟩ := ih hbehind
          refine ⟨found.text ++ front, back, by rw [List.append_assoc], ?_⟩
          have hstill : found.Full front := fun hwide hhead => by
            obtain ⟨rest, rfl⟩ := List.head?_eq_some_iff.mp hhead
            exact hfull hwide rfl
          rw [directives_of_read? (Word.read?_eq_some_iff.mpr ⟨hvalid, rfl, hstill⟩), hfront]

theorem exists_word_of_mem_directives {text found : Text} (hmem : found ∈ directives text) :
    ∃ word : Word, word.Valid ∧ word.text = found := by
  rw [mem_directives] at hmem
  induction text using scan_induction with
  | nil => exact absurd hmem List.not_mem_nil
  | char c rest hread ih =>
      rw [tokens_of_read?_none hread] at hmem
      rcases List.mem_cons.mp hmem with heq | hmem
      · cases heq
      · exact ih hmem
  | word text word after hread ih =>
      rw [tokens_of_read? hread] at hmem
      rcases List.mem_cons.mp hmem with heq | hmem
      · cases heq
        exact ⟨word, Word.read?_valid hread, rfl⟩
      · exact ih hmem

private theorem spansFrom_eq_nil_iff (start : Nat) (tokens : List Token) :
    spansFrom start tokens = [] ↔ ∀ word, .directive word ∉ tokens := by
  induction tokens generalizing start with
  | nil => simp [spansFrom]
  | cons token rest ih =>
      cases token with
      | char c => simpa [spansFrom] using ih (start + c.utf8Size)
      | directive word =>
          simp only [spansFrom, reduceCtorEq, false_iff]
          exact fun hnone => hnone word List.mem_cons_self

theorem spans_eq_nil_iff (text : Text) : spans text = [] ↔ Wordless text := by
  rw [spans, spansFrom_eq_nil_iff, ← directives_eq_nil_iff, List.eq_nil_iff_forall_not_mem]
  simp only [mem_directives]

end Markup

end Transclusion
