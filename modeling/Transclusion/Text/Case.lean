import Transclusion.Text.Basic

namespace Transclusion.Text

/-! Tables of single-character case mappings, written as runs of evenly spaced characters. -/

/-- The characters from `first` to `last`, `step` apart, whose images lie as far apart and
begin at `image`. -/
structure CaseRun where
  first : Nat
  last : Nat
  step : Nat
  image : Nat

namespace CaseRun

def image? (run : CaseRun) (code : Nat) : Option Nat :=
  if run.first ≤ code ∧ code ≤ run.last ∧ (code - run.first) % run.step = 0 then
    some (run.image + (code - run.first))
  else none

def apply (runs : List CaseRun) (c : Char) : Char :=
  ((runs.findSome? fun run => run.image? c.toNat).map Char.ofNat).getD c

end CaseRun

def inRanges (ranges : List (Nat × Nat)) (c : Char) : Bool :=
  ranges.any fun (first, last) => decide (first ≤ c.toNat) && decide (c.toNat ≤ last)

end Transclusion.Text
