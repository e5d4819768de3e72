import Transclusion.Json.Basic
import Transclusion.Text.Basic

namespace Transclusion.Json

/-! Numbers as they are read from text. The digits are gathered into 64 bits, those that no longer
fit are dropped, and the result is scaled by a power of ten, with a rounding at each step. -/

def digitLimit : Nat := UInt64.size

def gather (gathered : Nat) : Text → Nat × Nat
  | [] => (gathered, 0)
  | c :: rest =>
      let next := 10 * gathered + (c.toNat - '0'.toNat)
      if next < digitLimit then
        let (total, count) := gather next rest
        (total, count + 1)
      else (gathered, 0)

def powerLimit : Nat := 308

def tenTo (exponent : Nat) : Binary64 :=
  (Binary64.ofDecimal? false 1 exponent).getD (Binary64.zero false)

def scale? (x : Binary64) (exponent : Int) : Option Binary64 :=
  if exponent.natAbs ≤ powerLimit then
    if 0 ≤ exponent then x.times? (tenTo exponent.toNat)
    else x.dividedBy? (tenTo (-exponent).toNat)
  else if x.isZero then some x
  else if 0 ≤ exponent then none
  else
    (x.dividedBy? (tenTo powerLimit)).bind fun smaller => scale? smaller (exponent + powerLimit)
termination_by exponent.natAbs
decreasing_by
  have hlimit : 0 < powerLimit := by decide
  omega

def real? (negative : Bool) (gathered : Nat) (exponent : Int) : Option Number := do
  let x ← Binary64.ofNat? gathered
  let x ← scale? x exponent
  return .real { x with negative }

/-- An integer, if it lies between the least of 63 bits and a sign and the greatest of 64 bits. -/
def whole? (negative : Bool) (gathered : Nat) : Option Number :=
  if !negative then some (.integer gathered)
  else if gathered = 0 ∨ gathered > Nat.pow 2 63 then real? true gathered 0
  else some (.integer (-gathered))

/-- Exponents from here on are out of reach of every number. -/
def exponentLimit : Nat := Nat.pow 2 31

def withExponent? (negative : Bool) (gathered : Nat) (exponent : Int) (text : Text) :
    Option (Number × Text) :=
  match text with
  | c :: rest =>
      if c == 'e' || c == 'E' then
        let (down, rest) :=
          match rest with
          | '+' :: rest => (false, rest)
          | '-' :: rest => (true, rest)
          | _ => (false, rest)
        let digits := rest.takeWhile Char.isDigit
        let rest := rest.dropWhile Char.isDigit
        let written := Nat.ofDigitChars 10 digits 0
        if digits.isEmpty then none
        else if written ≥ exponentLimit then
          if gathered ≠ 0 ∧ !down then none
          else some (.real (Binary64.zero negative), rest)
        else
          let exponent := if down then exponent - written else exponent + written
          (real? negative gathered exponent).map (·, rest)
      else (real? negative gathered exponent).map (·, text)
  | [] => (real? negative gathered exponent).map (·, [])

def number? (text : Text) : Option (Number × Text) :=
  let (negative, text) :=
    match text with
    | '-' :: rest => (true, rest)
    | _ => (false, text)
  let digits := text.takeWhile Char.isDigit
  let rest := text.dropWhile Char.isDigit
  let (gathered, count) := gather 0 digits
  let dropped := digits.length - count
  if digits.isEmpty || (digits.head? == some '0' && digits.length > 1) then none
  else
    match rest with
    | '.' :: rest =>
        let places := rest.takeWhile Char.isDigit
        let (gathered, count) := gather gathered places
        if places.isEmpty then none
        else withExponent? negative gathered ((dropped : Int) - count)
          (rest.dropWhile Char.isDigit)
    | c :: _ =>
        if c == 'e' || c == 'E' then withExponent? negative gathered dropped rest
        else if dropped = 0 then (whole? negative gathered).map (·, rest)
        else (real? negative gathered dropped).map (·, rest)
    | [] =>
        if dropped = 0 then (whole? negative gathered).map (·, [])
        else (real? negative gathered dropped).map (·, [])

end Transclusion.Json
