import Transclusion.Number.Binary64

namespace Transclusion.Binary64

/-! The shortest decimal that rounds back to a number. -/

structure Decimal where
  digits : Nat
  exponent : Int
  deriving DecidableEq

/-- The numbers that round to a mantissa and exponent, in quarters of a unit of the mantissa, and
whether the two ends belong to them. -/
structure Interval where
  low : Nat
  value : Nat
  high : Nat
  closed : Bool

def interval (x : Binary64) : Interval where
  low := 4 * x.mantissa - (if x.mantissa = Nat.pow 2 52 ∧ x.exponent > leastExponent then 1 else 2)
  value := 4 * x.mantissa
  high := 4 * x.mantissa + 2
  closed := x.mantissa % 2 = 0

private def distance (first second : Nat) : Nat :=
  (first - second) + (second - first)

def onGrid? (x : Binary64) (exponent : Int) : Option Decimal :=
  let range := x.interval
  let quarter := x.exponent - 2
  -- Both sides are multiplied until the grid and the ends of the interval are whole numbers.
  let unit := Nat.pow 2 quarter.toNat * Nat.pow 10 (-exponent).toNat
  let step := Nat.pow 2 (-quarter).toNat * Nat.pow 10 exponent.toNat
  let value := range.value * unit
  let fits (multiple : Nat) : Bool :=
    let point := multiple * step
    if range.closed then range.low * unit ≤ point && point ≤ range.high * unit
    else range.low * unit < point && point < range.high * unit
  let below := value / step
  let above := below + 1
  match fits below, fits above with
  | false, false => none
  | true, false => some ⟨below, exponent⟩
  | false, true => some ⟨above, exponent⟩
  | true, true =>
      let toBelow := distance value (below * step)
      let toAbove := distance (above * step) value
      if toBelow < toAbove ∨ (toBelow = toAbove ∧ below % 2 = 0) then some ⟨below, exponent⟩
      else some ⟨above, exponent⟩

def leadExponent (x : Binary64) : Int :=
  let (top, bottom) := x.fraction
  if top ≥ bottom then ((Nat.toDigits 10 (top / bottom)).length : Int) - 1
  else
    -- The quotient rounded up has one digit more only when it is a power of ten itself.
    let inverse := bottom / top
    let digits := ((Nat.toDigits 10 inverse).length : Int)
    if top * Nat.pow 10 (digits - 1).toNat ≥ bottom then -(digits - 1) else -digits

/-- The shortest decimal, for a number other than zero. Seventeen digits are always enough. -/
def shortest (x : Binary64) : Decimal :=
  let lead := x.leadExponent
  ((List.range 17).findSome? fun more : Nat => x.onGrid? (lead - more)).getD ⟨0, 0⟩

end Transclusion.Binary64
