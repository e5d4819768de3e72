import Transclusion.Directive.Word

namespace Transclusion.Markup

open Directive

/-! Markup as the sequence of its directives and of the characters around them. -/

inductive Token where
  | char (c : Char)
  | directive (text : Text)
  deriving DecidableEq

namespace Token

def text : Token → Text
  | .char c => [c]
  | .directive text => text

end Token

/-- Cuts a text into tokens, the first `skip` characters being those of a directive that has been
taken already. -/
def tokensFrom (skip : Nat) : Text → List Token
  | [] => []
  | c :: rest =>
      match skip with
      | skip + 1 => tokensFrom skip rest
      | 0 =>
          match Word.read? (c :: rest) with
          | some (word, _) => .directive word.text :: tokensFrom (word.text.length - 1) rest
          | none => .char c :: tokensFrom 0 rest

def tokens (text : Text) : List Token :=
  tokensFrom 0 text

/-- A directive and the bytes it takes up: from the byte `start` to just before `stop`. -/
structure Span where
  text : Text
  start : Nat
  stop : Nat
  deriving DecidableEq

def spansFrom (start : Nat) : List Token → List Span
  | [] => []
  | .char c :: rest => spansFrom (start + c.utf8Size) rest
  | .directive text :: rest =>
      let stop := start + Text.byteSize text
      ⟨text, start, stop⟩ :: spansFrom stop rest

def spans (text : Text) : List Span :=
  spansFrom 0 (tokens text)

def directives (text : Text) : List Text :=
  (tokens text).filterMap fun
    | .char _ => none
    | .directive text => some text

/-- Puts a text in place of every directive, from the first on, up to the first that fails. -/
def replaceTokens {ε : Type} (image : Text → Except ε Text) : List Token → Except ε Text
  | [] => .ok []
  | .char c :: rest => do
      let after ← replaceTokens image rest
      return c :: after
  | .directive text :: rest => do
      let new ← image text
      let after ← replaceTokens image rest
      return new ++ after

def replace {ε : Type} (image : Text → Except ε Text) (text : Text) : Except ε Text :=
  replaceTokens image (tokens text)

theorem tokensFrom_drop (skip : Nat) (text : Text) :
    tokensFrom skip text = tokens (text.drop skip) := by
  induction text generalizing skip with
  | nil => simp [tokens, tokensFrom]
  | cons c rest ih =>
      cases skip with
      | zero => rfl
      | succ skip => simpa [tokensFrom] using ih skip

theorem tokens_of_read? {text rest : Text} {word : Word} (h : Word.read? text = some (word, rest)) :
    tokens text = .directive word.text :: tokens rest := by
  have htext := Word.read?_text h
  have hlength := Word.length_text_pos word
  cases text with
  | nil => simp [Word.read?, Word.openBraces?] at h
  | cons c behind =>
      have hbehind : behind.drop (word.text.length - 1) = rest := by
        have := congrArg (List.drop word.text.length) htext
        rw [List.drop_left] at this
        rw [← this]
        conv => rhs; rw [show word.text.length = (word.text.length - 1) + 1 by omega]
        rfl
      simp only [tokens, tokensFrom, h]
      rw [tokensFrom_drop, hbehind]
      rfl

theorem tokens_of_read?_none {c : Char} {rest : Text} (h : Word.read? (c :: rest) = none) :
    tokens (c :: rest) = .char c :: tokens rest := by
  simp [tokens, tokensFrom, h]

theorem flatMap_text_tokens (text : Text) : (tokens text).flatMap Token.text = text := by
  induction hlength : text.length using Nat.strongRecOn generalizing text with
  | _ length ih =>
      cases text with
      | nil => rfl
      | cons c rest =>
          cases hread : Word.read? (c :: rest) with
          | none =>
              rw [tokens_of_read?_none hread, List.flatMap_cons, ih rest.length (by simp_all; omega) rest rfl]
              rfl
          | some found =>
              obtain ⟨word, after⟩ := found
              have htext := Word.read?_text hread
              have hlt : after.length < length := by
                have := Word.length_text_pos word
                rw [← hlength, htext, List.length_append]
                omega
              rw [tokens_of_read? hread, List.flatMap_cons, ih after.length hlt after rfl, htext]
              rfl

theorem replaceTokens_char {ε : Type} (image : Text → Except ε Text) (c : Char)
    (rest : List Token) :
    replaceTokens image (.char c :: rest) = (replaceTokens image rest).map (c :: ·) := by
  simp only [replaceTokens]
  cases replaceTokens image rest <;> rfl

end Transclusion.Markup
