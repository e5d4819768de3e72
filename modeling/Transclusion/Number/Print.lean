import Transclusion.Number.Shortest
import Transclusion.Text.Basic

namespace Transclusion.Binary64

/-! How numbers are written out. -/

/-- The powers of ten from which and up to which a number is written without an exponent. -/
def plainFrom : Int := -5

def plainBelow : Int := 16

def printDecimal (decimal : Decimal) : Text :=
  let digits := (Nat.toDigits 10 decimal.digits).reverse.dropWhile (· == '0') |>.reverse
  let lead := decimal.exponent + (Nat.toDigits 10 decimal.digits).length - 1
  if plainFrom ≤ lead ∧ lead < plainBelow then
    if lead < 0 then
      ['0', '.'] ++ List.replicate (-lead - 1).toNat '0' ++ digits
    else
      let whole := digits.take (lead + 1).toNat
      let places := digits.drop (lead + 1).toNat
      whole ++ List.replicate ((lead + 1).toNat - whole.length) '0' ++ ['.'] ++
        (if places.isEmpty then ['0'] else places)
  else
    let mark := if lead < 0 then ['e', '-'] else ['e', '+']
    digits.take 1 ++ (if digits.length ≤ 1 then [] else '.' :: digits.drop 1) ++ mark ++
      Nat.toDigits 10 lead.natAbs

def print (x : Binary64) : Text :=
  (if x.negative then ['-'] else []) ++
    (if x.isZero then ['0', '.', '0'] else printDecimal x.shortest)

end Transclusion.Binary64
