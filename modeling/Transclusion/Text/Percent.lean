import Transclusion.Text.Utf8

namespace Transclusion.Text

/-! Percent escapes: `%` and two hexadecimal digits stand for one byte. A `%` that two digits do
not follow stands for itself. -/

def hexValue? (c : Char) : Option Nat :=
  if '0' ≤ c ∧ c ≤ '9' then some (c.toNat - '0'.toNat)
  else if 'a' ≤ c ∧ c ≤ 'f' then some (c.toNat - 'a'.toNat + 10)
  else if 'A' ≤ c ∧ c ≤ 'F' then some (c.toNat - 'A'.toNat + 10)
  else none

def percentBytes : Text → Bytes
  | '%' :: first :: second :: rest =>
      match hexValue? first, hexValue? second with
      | some high, some low => UInt8.ofNat (16 * high + low) :: percentBytes rest
      | _, _ => toUtf8 ['%'] ++ percentBytes (first :: second :: rest)
  | c :: rest => toUtf8 [c] ++ percentBytes rest
  | [] => []

def percentDecode? (text : Text) : Option Text :=
  ofUtf8? (percentBytes text)

end Transclusion.Text
