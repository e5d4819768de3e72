import Transclusion.Text.Blank

namespace Transclusion.Directive

open Text

/-! The grammar of directives: two or three opening braces, blanks, `>`, a body, and two or three
closing braces. -/

def isBodyChar (c : Char) : Bool :=
  c.isAlphanum || isAsciiBlank c || ['_', '-', '%', '@', '/', '.', '\\', '|'].contains c

structure Word where
  wideOpen : Bool
  blanks : Text
  body : Text
  wideClose : Bool
  deriving DecidableEq

namespace Word

def text (word : Word) : Text :=
  (if word.wideOpen then ['{', '{', '{'] else ['{', '{']) ++ word.blanks ++ '>' :: word.body ++
    (if word.wideClose then ['}', '}', '}'] else ['}', '}'])

structure Valid (word : Word) : Prop where
  blanks : ∀ c ∈ word.blanks, isAsciiBlank c = true
  body : ∀ c ∈ word.body, isBodyChar c = true

theorem length_text_pos (word : Word) : 0 < word.text.length := by
  simp only [text, List.length_append, List.length_cons]
  omega

def openBraces? : Text → Option (Bool × Text)
  | '{' :: '{' :: '{' :: rest => some (true, rest)
  | '{' :: '{' :: rest => some (false, rest)
  | _ => none

def closeBraces? : Text → Option (Bool × Text)
  | '}' :: '}' :: '}' :: rest => some (true, rest)
  | '}' :: '}' :: rest => some (false, rest)
  | _ => none

/-- Reads a directive off the front of a text. Of the braces it takes as many as it can. -/
def read? (text : Text) : Option (Word × Text) :=
  match openBraces? text with
  | none => none
  | some (wideOpen, inner) =>
      match inner.dropWhile isAsciiBlank with
      | '>' :: behind =>
          match closeBraces? (behind.dropWhile isBodyChar) with
          | none => none
          | some (wideClose, rest) =>
              some ({
                wideOpen
                blanks := inner.takeWhile isAsciiBlank
                body := behind.takeWhile isBodyChar
                wideClose }, rest)
      | _ => none

theorem openBraces?_text {text rest : Text} {wide : Bool}
    (h : openBraces? text = some (wide, rest)) :
    text = (if wide then ['{', '{', '{'] else ['{', '{']) ++ rest := by
  unfold openBraces? at h
  split at h <;> simp_all

theorem closeBraces?_text {text rest : Text} {wide : Bool}
    (h : closeBraces? text = some (wide, rest)) :
    text = (if wide then ['}', '}', '}'] else ['}', '}']) ++ rest := by
  unfold closeBraces? at h
  split at h <;> simp_all

theorem read?_text {text rest : Text} {word : Word} (h : read? text = some (word, rest)) :
    text = word.text ++ rest := by
  unfold read? at h
  split at h
  · simp at h
  · next wideOpen inner hopen =>
      split at h
      · next behind hbehind =>
          split at h
          · simp at h
          · next wideClose after hclose =>
              simp only [Option.some.injEq, Prod.mk.injEq] at h
              obtain ⟨rfl, rfl⟩ := h
              rw [openBraces?_text hopen]
              conv => lhs; rw [← List.takeWhile_append_dropWhile (p := isAsciiBlank) (l := inner)]
              rw [hbehind]
              conv => lhs; rw [← List.takeWhile_append_dropWhile (p := isBodyChar) (l := behind)]
              rw [closeBraces?_text hclose]
              simp [Word.text, List.append_assoc]
      · simp at h

theorem read?_valid {text rest : Text} {word : Word} (h : read? text = some (word, rest)) :
    word.Valid := by
  unfold read? at h
  split at h
  · simp at h
  · split at h
    · split at h
      · simp at h
      · simp only [Option.some.injEq, Prod.mk.injEq] at h
        obtain ⟨rfl, _⟩ := h
        exact ⟨List.all_eq_true.mp List.all_takeWhile, List.all_eq_true.mp List.all_takeWhile⟩
    · simp at h

end Word

end Transclusion.Directive
