import Transclusion.Text.Basic

namespace Transclusion.Yaml

/-! A place in a text of lines and columns. -/

def isPrintable (c : Char) : Bool :=
  c == '\t' || c == '\n' || c == '\x0d' || (' ' ≤ c && c ≤ '~') || c == '\u0085' ||
    ('\u00a0' ≤ c && c ≤ '\ufffd') || decide (0x10000 ≤ c.toNat)

def isBlank (c : Char) : Bool := c == ' ' || c == '\t'

def isBreak (c : Char) : Bool :=
  c == '\n' || c == '\x0d' || c == '\u0085' || c == '\u2028' || c == '\u2029'

def isNameChar (c : Char) : Bool := c.isAlphanum || c == '_' || c == '-'

def endsWord (text : Text) : Bool :=
  match text with
  | [] => true
  | c :: _ => isBlank c || isBreak c

structure Cursor where
  rest : Text
  index : Nat
  line : Nat
  column : Nat

namespace Cursor

def start (text : Text) : Cursor := ⟨text, 0, 0, 0⟩

def skip (count : Nat) (cursor : Cursor) : Cursor :=
  { cursor with
    rest := cursor.rest.drop count
    index := cursor.index + count
    column := cursor.column + count }

/-- Goes on to the next line. A carriage return and the line feed behind it are one break. -/
def skipBreak (cursor : Cursor) : Cursor :=
  let count :=
    match cursor.rest with
    | '\x0d' :: '\n' :: _ => 2
    | _ => 1
  { rest := cursor.rest.drop count
    index := cursor.index + count
    line := cursor.line + 1
    column := 0 }

def breakText (cursor : Cursor) : Text :=
  match cursor.rest with
  | [] => []
  | c :: _ => if c == '\u2028' || c == '\u2029' then [c] else ['\n']

def skipWhile (p : Char → Bool) (cursor : Cursor) : Cursor :=
  cursor.skip (cursor.rest.takeWhile p).length

def isAtMark (mark : Char) (cursor : Cursor) : Bool :=
  cursor.column == 0 &&
    match cursor.rest with
    | a :: b :: c :: rest => a == mark && b == mark && c == mark && endsWord rest
    | _ => false

def isAtDocument (cursor : Cursor) : Bool :=
  cursor.isAtMark '-' || cursor.isAtMark '.'

def endLine? (cursor : Cursor) : Option Cursor :=
  let cursor := cursor.skipWhile isBlank
  let cursor :=
    match cursor.rest with
    | '#' :: _ => cursor.skipWhile (!isBreak ·)
    | _ => cursor
  match cursor.rest with
  | [] => some cursor
  | c :: _ => if isBreak c then some cursor.skipBreak else none

end Cursor

end Transclusion.Yaml
