import Transclusion.Json.Number
import Transclusion.Text.Percent

namespace Transclusion.Json

/-! Reading structured data from text, strictly. -/

def isJsonBlank (c : Char) : Bool :=
  c == ' ' || c == '\n' || c == '\t' || c == '\x0d'

def skipBlank (text : Text) : Text :=
  text.dropWhile isJsonBlank

def codeUnit? (a b c d : Char) : Option Nat := do
  let a ← Text.hexValue? a
  let b ← Text.hexValue? b
  let c ← Text.hexValue? c
  let d ← Text.hexValue? d
  return ((a * 16 + b) * 16 + c) * 16 + d

def isHighHalf (unit : Nat) : Bool :=
  0xD800 ≤ unit && unit < 0xDC00

def isLowHalf (unit : Nat) : Bool :=
  0xDC00 ≤ unit && unit < 0xE000

def shortEscape? : Char → Option Char
  | '"' => some '"'
  | '\\' => some '\\'
  | '/' => some '/'
  | 'b' => some '\x08'
  | 'f' => some '\x0c'
  | 'n' => some '\n'
  | 'r' => some '\x0d'
  | 't' => some '\t'
  | _ => none

/-- Reads a string behind its opening quote. The halves of a pair of code units stand only
together. -/
def stringTail? : Text → Option (Text × Text)
  | '"' :: rest => some ([], rest)
  | '\\' :: 'u' :: a :: b :: c :: d :: rest => do
      let unit ← codeUnit? a b c d
      if isLowHalf unit then none
      else if isHighHalf unit then
        match rest with
        | '\\' :: 'u' :: e :: f :: g :: h :: rest => do
            let low ← codeUnit? e f g h
            if isLowHalf low then
              let (text, rest) ← stringTail? rest
              some (Char.ofNat (0x10000 + (unit - 0xD800) * 0x400 + (low - 0xDC00)) :: text, rest)
            else none
        | _ => none
      else
        let (text, rest) ← stringTail? rest
        some (Char.ofNat unit :: text, rest)
  | '\\' :: escape :: rest => do
      let c ← shortEscape? escape
      let (text, rest) ← stringTail? rest
      some (c :: text, rest)
  | c :: rest =>
      if c.toNat < 0x20 then none
      else do
        let (text, rest) ← stringTail? rest
        some (c :: text, rest)
  | [] => none

def depthLimit : Nat := 127

mutual

/-- Reads a value; `room` is the number of containers that may still be opened. -/
def value? (steps room : Nat) (text : Text) : Option (Json × Text) :=
  match steps with
  | 0 => none
  | steps + 1 =>
      match skipBlank text with
      | 'n' :: 'u' :: 'l' :: 'l' :: rest => some (.null, rest)
      | 't' :: 'r' :: 'u' :: 'e' :: rest => some (.bool true, rest)
      | 'f' :: 'a' :: 'l' :: 's' :: 'e' :: rest => some (.bool false, rest)
      | '"' :: rest => (stringTail? rest).map fun (text, rest) => (.string text, rest)
      | '[' :: rest =>
          match room with
          | 0 => none
          | room + 1 =>
              match skipBlank rest with
              | ']' :: rest => some (.array [], rest)
              | rest => (items? steps room rest).map fun (items, rest) => (.array items, rest)
      | '{' :: rest =>
          match room with
          | 0 => none
          | room + 1 =>
              match skipBlank rest with
              | '}' :: rest => some (.object [], rest)
              | rest =>
                  (members? steps room [] rest).map fun (members, rest) => (.object members, rest)
      | text => (number? text).map fun (read, rest) => (.number read, rest)

def items? (steps room : Nat) (text : Text) : Option (List Json × Text) :=
  match steps with
  | 0 => none
  | steps + 1 => do
      let (item, rest) ← value? steps room text
      match skipBlank rest with
      | ',' :: rest =>
          let (items, rest) ← items? steps room rest
          some (item :: items, rest)
      | ']' :: rest => some ([item], rest)
      | _ => none

/-- Reads the members of an object on top of those before; of equal names the last counts. -/
def members? (steps room : Nat) (before : Data) (text : Text) : Option (Data × Text) :=
  match steps with
  | 0 => none
  | steps + 1 => do
      let '"' :: rest := skipBlank text | none
      let (name, rest) ← stringTail? rest
      let ':' :: rest := skipBlank rest | none
      let (value, rest) ← value? steps room rest
      let members := Dict.insert before name value
      match skipBlank rest with
      | ',' :: rest => members? steps room members rest
      | '}' :: rest => some (members, rest)
      | _ => none

end

def read? (text : Text) : Option Json :=
  match value? (2 * text.length + 2) depthLimit text with
  | some (value, rest) => if (skipBlank rest).isEmpty then some value else none
  | none => none

end Transclusion.Json
