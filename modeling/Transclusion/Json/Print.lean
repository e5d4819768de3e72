import Transclusion.Json.Basic
import Transclusion.Number.Print

namespace Transclusion

def Number.print : Number → Text
  | .integer value =>
      (if value < 0 then ['-'] else []) ++ Nat.toDigits 10 value.natAbs
  | .real value => value.print

namespace Json

/-! Structured data as text: compact, or over several lines. -/

def hexDigits (code : Nat) : Text :=
  [Nat.digitChar (code / 16), Nat.digitChar (code % 16)]

def escapeChar (c : Char) : Text :=
  match c with
  | '"' => ['\\', '"']
  | '\\' => ['\\', '\\']
  | '\x08' => ['\\', 'b']
  | '\x0c' => ['\\', 'f']
  | '\n' => ['\\', 'n']
  | '\x0d' => ['\\', 'r']
  | '\t' => ['\\', 't']
  | c => if c.toNat < 0x20 then ['\\', 'u', '0', '0'] ++ hexDigits c.toNat else [c]

def printString (text : Text) : Text :=
  '"' :: text.flatMap escapeChar ++ ['"']

def printBool (value : Bool) : Text :=
  if value then ['t', 'r', 'u', 'e'] else ['f', 'a', 'l', 's', 'e']

mutual

def print : Json → Text
  | .null => ['n', 'u', 'l', 'l']
  | .bool value => printBool value
  | .number value => value.print
  | .string text => printString text
  | .array [] => ['[', ']']
  | .array (item :: items) => '[' :: print item ++ printItems items
  | .object [] => ['{', '}']
  | .object ((name, value) :: members) =>
      '{' :: printString name ++ ':' :: print value ++ printMembers members

def printItems : List Json → Text
  | [] => [']']
  | item :: items => ',' :: print item ++ printItems items

def printMembers : List (Text × Json) → Text
  | [] => ['}']
  | (name, value) :: members =>
      ',' :: printString name ++ ':' :: print value ++ printMembers members

end

def lineBreak (depth : Nat) : Text :=
  '\n' :: List.replicate (2 * depth) ' '

mutual

def printLines (depth : Nat) : Json → Text
  | .array [] => ['[', ']']
  | .array (item :: items) =>
      '[' :: lineBreak (depth + 1) ++ printLines (depth + 1) item ++ printItemLines depth items
  | .object [] => ['{', '}']
  | .object ((name, value) :: members) =>
      '{' :: lineBreak (depth + 1) ++ printString name ++ ':' :: ' ' ::
        printLines (depth + 1) value ++ printMemberLines depth members
  | .null => ['n', 'u', 'l', 'l']
  | .bool value => printBool value
  | .number value => value.print
  | .string text => printString text

def printItemLines (depth : Nat) : List Json → Text
  | [] => lineBreak depth ++ [']']
  | item :: items =>
      ',' :: lineBreak (depth + 1) ++ printLines (depth + 1) item ++ printItemLines depth items

def printMemberLines (depth : Nat) : List (Text × Json) → Text
  | [] => lineBreak depth ++ ['}']
  | (name, value) :: members =>
      ',' :: lineBreak (depth + 1) ++ printString name ++ ':' :: ' ' ::
        printLines (depth + 1) value ++ printMemberLines depth members

end

end Json

end Transclusion
