import Transclusion.Text.Fold
import Transclusion.Text.Word

namespace Transclusion

/-! Renaming a word throughout a text, in whatever case it is written, together with the mark that
may be attached to it. -/

structure Rename where
  old : Text
  new : Text
  deriving DecidableEq

namespace Rename

/-- What may be attached to a word, and is kept. -/
def mark : Text := ['_', 'M', 'A', 'P', 'P', 'E', 'R']

def readFolded? : Text → Text → Option (Text × Text)
  | [], text => some ([], text)
  | _ :: _, [] => none
  | c :: word, d :: text =>
      if Text.sameFold c d then (readFolded? word text).map fun (read, rest) => (d :: read, rest)
      else none

def lastOf (before : Option Char) (text : Text) : Option Char :=
  text.getLast?.or before

/-- What is attached to a word ahead of the rest of a text: the mark if that makes the word whole,
and otherwise nothing, if it is whole as it is. -/
def ending? (last : Option Char) (rest : Text) : Option Text :=
  let marked := do
    let (mark, behind) ← readFolded? mark rest
    if Text.wordBoundary (lastOf last mark) behind.head? then some mark else none
  marked.or (if Text.wordBoundary last rest.head? then some [] else none)

def readWord? (word : Text) (before : Option Char) (text : Text) : Option (Text × Nat) :=
  if Text.wordBoundary before text.head? then do
    let (read, rest) ← readFolded? word text
    let mark ← ending? (lastOf before read) rest
    return (mark, read.length + mark.length)
  else none

/-- Renames from some place in a text on, the first `skip` characters being those of a word that
has been renamed already. -/
def applyFrom (rename : Rename) (skip : Nat) (before : Option Char) : Text → Text
  | [] => []
  | c :: rest =>
      match skip with
      | skip + 1 => applyFrom rename skip (some c) rest
      | 0 =>
          match readWord? rename.old before (c :: rest) with
          | some (mark, length) =>
              rename.new ++ mark ++ applyFrom rename (length - 1) (some c) rest
          | none => c :: applyFrom rename 0 (some c) rest

def apply (rename : Rename) (text : Text) : Text :=
  if rename.old.isEmpty then text else applyFrom rename 0 none text

@[simp] theorem apply_nil (rename : Rename) : rename.apply [] = [] := by
  simp [apply, applyFrom]

end Rename

end Transclusion
