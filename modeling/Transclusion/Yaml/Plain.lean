import Transclusion.Json.Basic
import Transclusion.Text.Percent

namespace Transclusion.Yaml

/-! What plain scalars stand for. -/

def isNull (text : Text) : Bool :=
  ["~", "null", "Null", "NULL"].any (·.toList = text)

def bool? (text : Text) : Option Bool :=
  if ["true", "True", "TRUE"].any (·.toList = text) then some true
  else if ["false", "False", "FALSE"].any (·.toList = text) then some false
  else none

def isPadded (text : Text) : Bool :=
  let digits :=
    match text with
    | '-' :: digits | '+' :: digits => digits
    | _ => text
  match digits with
  | '0' :: rest => !rest.isEmpty && rest.all Char.isDigit
  | _ => false

def natOfBase? (base : Nat) (digits : Text) : Option Nat :=
  if digits.isEmpty then none
  else digits.foldlM (fun number digit =>
    (Text.hexValue? digit).bind fun value =>
      if value < base then some (base * number + value) else none) 0

def basedNat? (text : Text) : Option Nat :=
  match text with
  | '0' :: 'x' :: digits => natOfBase? 16 digits
  | '0' :: 'o' :: digits => natOfBase? 8 digits
  | '0' :: 'b' :: digits => natOfBase? 2 digits
  | _ => none

def whole? (text : Text) : Option (Bool × Nat) :=
  let (negative, digits) :=
    match text with
    | '-' :: digits => (true, digits)
    | '+' :: digits => (false, digits)
    | _ => (false, text)
  ((basedNat? digits).or (if isPadded text then none else natOfBase? 10 digits)).map (negative, ·)

def count? (text : Text) : Option Nat :=
  match whole? text with
  | some (false, number) => if number < UInt64.size then some number else none
  | _ => none

inductive Real where
  | finite (value : Binary64)
  | infinite
  | notNumber

def isInfinity (text : Text) : Bool :=
  [".inf", ".Inf", ".INF", "+.inf", "+.Inf", "+.INF", "-.inf", "-.Inf", "-.INF"].any
    (·.toList = text)

def isNotNumber (text : Text) : Bool :=
  [".nan", ".NaN", ".NAN"].any (·.toList = text)

def exponent? (text : Text) : Option Int :=
  match text with
  | [] => some 0
  | c :: rest =>
      if c = 'e' ∨ c = 'E' then
        let (down, digits) :=
          match rest with
          | '-' :: digits => (true, digits)
          | '+' :: digits => (false, digits)
          | _ => (false, rest)
        if digits.isEmpty || !digits.all Char.isDigit then none
        else
          let size : Int := Nat.ofDigitChars 10 digits 0
          some (if down then -size else size)
      else none

def finite? (text : Text) : Option Binary64 := do
  let (negative, text) :=
    match text with
    | '-' :: rest => (true, rest)
    | '+' :: rest => (false, rest)
    | _ => (false, text)
  let whole := text.takeWhile Char.isDigit
  let (places, rest) :=
    match text.dropWhile Char.isDigit with
    | '.' :: rest => (rest.takeWhile Char.isDigit, rest.dropWhile Char.isDigit)
    | rest => ([], rest)
  if whole.isEmpty && places.isEmpty then none
  else
    let exponent ← exponent? rest
    Binary64.ofDecimal? negative (Nat.ofDigitChars 10 (whole ++ places) 0)
      (exponent - places.length)

def real? (text : Text) : Option Real :=
  if isInfinity text then some .infinite
  else if isNotNumber text then some .notNumber
  else (finite? text).map .finite

def Real.json : Real → Json
  | .finite value => .number (.real value)
  | .infinite | .notNumber => .null

/-- A whole number as data. One that is too large for 64 bits is refused, and from 128 bits on it
is no whole number at all. -/
inductive Integer where
  | fits (value : Int)
  | tooLarge

def integer? (text : Text) : Option Integer :=
  match whole? text with
  | some (false, number) =>
      if number < UInt64.size then some (.fits number)
      else if number < Nat.pow 2 128 then some .tooLarge
      else none
  | some (true, number) =>
      if number ≤ Nat.pow 2 63 then some (.fits (-number))
      else if number ≤ Nat.pow 2 127 then some .tooLarge
      else none
  | none => none

def Integer.json? : Integer → Option Json
  | .fits value => some (.number (.integer value))
  | .tooLarge => none

def plainJson? (text : Text) : Option Json :=
  if text.isEmpty || isNull text then some .null
  else
    match bool? text with
    | some value => some (.bool value)
    | none =>
        match integer? text with
        | some integer => integer.json?
        | none =>
            match if isPadded text then none else real? text with
            | some real => some real.json
            | none => some (.string text)

end Transclusion.Yaml
