import Transclusion.Text.Percent

namespace Transclusion.Command

/-! Addresses of the network, as they are read and shown. -/

inductive Address where
  | four (bytes : List Nat)
  | six (parts : List Nat)
  deriving DecidableEq

namespace Address

def readByte? (text : Text) : Option Nat :=
  let number := Nat.ofDigitChars 10 text 0
  if text.isEmpty || !text.all Char.isDigit || text.length > 3 || number > 255 ||
      (text.length > 1 && text.head? == some '0') then none
  else some number

def readFour? (text : Text) : Option (List Nat) :=
  let bytes := Text.split '.' text
  if bytes.length = 4 then bytes.mapM readByte? else none

def readPart? (text : Text) : Option Nat :=
  if text.isEmpty || text.length > 4 then none
  else text.foldlM (fun number digit => (Text.hexValue? digit).map (16 * number + ·)) 0

/-- Reads parts between colons. The last may be written as an address of four bytes. -/
def readParts? : List Text → Option (List Nat)
  | [] => some []
  | [last] =>
      match readFour? last with
      | some [a, b, c, d] => some [256 * a + b, 256 * c + d]
      | _ => (readPart? last).map ([·])
  | part :: parts => do return (← readPart? part) :: (← readParts? parts)

def readSide? (text : Text) : Option (List Nat) :=
  if text.isEmpty then some [] else readParts? (Text.split ':' text)

/-- Reads eight parts. Two colons in a row stand for as many zeros as are left out. -/
def readSix? (text : Text) : Option (List Nat) :=
  match Text.breakAt? [':', ':'] text with
  | none => (readSide? text).filter (·.length = 8)
  | some (front, back) => do
      if front.contains '.' then none
      let front ← readSide? front
      let back ← readSide? back
      if front.length + back.length < 8 then
        some (front ++ List.replicate (8 - front.length - back.length) 0 ++ back)
      else none

def read? (text : Text) : Option Address :=
  ((readFour? text).map .four).or ((readSix? text).map .six)

def printFour (bytes : List Nat) : Text :=
  Text.join ['.'] (bytes.map (Nat.toDigits 10))

def printParts (parts : List Nat) : Text :=
  Text.join [':'] (parts.map (Nat.toDigits 16))

def longestZeros (parts : List Nat) : Nat × Nat :=
  let runs := (List.range parts.length).map fun place =>
    (place, ((parts.drop place).takeWhile (· == 0)).length)
  runs.foldl (fun best run => if run.2 > best.2 then run else best) (0, 0)

/-- Shows the parts, with two colons in place of the longest run of two zeros or more. -/
def printSix (parts : List Nat) : Text :=
  match parts with
  | [0, 0, 0, 0, 0, 0xffff, high, low] =>
      "::ffff:".toList ++ printFour [high / 256, high % 256, low / 256, low % 256]
  | _ =>
      let (place, length) := longestZeros parts
      if length > 1 then
        printParts (parts.take place) ++ [':', ':'] ++ printParts (parts.drop (place + length))
      else printParts parts

end Address

structure Endpoint where
  address : Address
  number : Nat
  deriving DecidableEq

def Endpoint.print (endpoint : Endpoint) : Text :=
  let host :=
    match endpoint.address with
    | .four bytes => Address.printFour bytes
    | .six parts => '[' :: Address.printSix parts ++ [']']
  host ++ ':' :: Nat.toDigits 10 endpoint.number

end Transclusion.Command
