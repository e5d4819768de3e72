namespace Transclusion

/-! Finite binary floating-point numbers of 64 bits, and rounding to them. -/

/-- The number `mantissa * 2 ^ exponent`, or its opposite. The mantissa has 53 bits, or fewer when
the exponent is the least there is. -/
structure Binary64 where
  negative : Bool
  mantissa : Nat
  exponent : Int
  deriving DecidableEq

namespace Binary64

def leastExponent : Int := -1074

def greatestExponent : Int := 971

def zero (negative : Bool) : Binary64 := ⟨negative, 0, leastExponent⟩

def isZero (x : Binary64) : Bool := x.mantissa == 0

/-- The quotient rounded to the nearest number, halves to the even neighbour. -/
def divideToEven (numerator denominator : Nat) : Nat :=
  let quotient := numerator / denominator
  let remainder := numerator % denominator
  if 2 * remainder < denominator then quotient
  else if 2 * remainder > denominator then quotient + 1
  else if quotient % 2 = 0 then quotient else quotient + 1

def scaled (numerator denominator : Nat) (exponent : Int) : Nat × Nat :=
  if 0 ≤ exponent then (numerator, denominator * Nat.pow 2 exponent.toNat)
  else (numerator * Nat.pow 2 (-exponent).toNat, denominator)

def round? (negative : Bool) (numerator denominator : Nat) : Option Binary64 :=
  if numerator = 0 then some (zero negative)
  else
    let estimate : Int := (numerator.log2 : Int) - denominator.log2 - 52
    let (top, bottom) := scaled numerator denominator estimate
    let tight := if top / bottom < Nat.pow 2 52 then estimate - 1 else estimate
    let exponent := max tight leastExponent
    let (top, bottom) := scaled numerator denominator exponent
    let mantissa := divideToEven top bottom
    let (mantissa, exponent) :=
      if mantissa = Nat.pow 2 53 then (Nat.pow 2 52, exponent + 1) else (mantissa, exponent)
    if exponent > greatestExponent then none else some ⟨negative, mantissa, exponent⟩

def fraction (x : Binary64) : Nat × Nat :=
  if 0 ≤ x.exponent then (x.mantissa * Nat.pow 2 x.exponent.toNat, 1)
  else (x.mantissa, Nat.pow 2 (-x.exponent).toNat)

def ofNat? (n : Nat) : Option Binary64 := round? false n 1

def times? (x y : Binary64) : Option Binary64 :=
  let (xTop, xBottom) := x.fraction
  let (yTop, yBottom) := y.fraction
  round? (x.negative != y.negative) (xTop * yTop) (xBottom * yBottom)

def dividedBy? (x y : Binary64) : Option Binary64 :=
  let (xTop, xBottom) := x.fraction
  let (yTop, yBottom) := y.fraction
  round? (x.negative != y.negative) (xTop * yBottom) (xBottom * yTop)

def ofDecimal? (negative : Bool) (digits : Nat) (exponent : Int) : Option Binary64 :=
  if digits = 0 then some (zero negative)
  else if exponent > 400 then none
  else if 0 ≤ exponent then round? negative (digits * Nat.pow 10 exponent.toNat) 1
  else if -exponent > (digits.log2 : Int) + 400 then some (zero negative)
  else round? negative digits (Nat.pow 10 (-exponent).toNat)

end Binary64

end Transclusion
