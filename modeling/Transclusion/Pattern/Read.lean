import Transclusion.Pattern.Class

namespace Transclusion.Pattern

/-! Reading a pattern from its text. -/

/-- What has been read of a group: the alternatives so far, and the items of the last one, the
latest first. An item that only turns flags is kept as nothing. -/
structure OpenGroup where
  ahead : Option Pattern
  items : List (Option Pattern)

namespace OpenGroup

def empty : OpenGroup := ⟨none, []⟩

def add (group : OpenGroup) (item : Option Pattern) : OpenGroup :=
  { group with items := item :: group.items }

def total (group : OpenGroup) : Pattern :=
  let last :=
    group.items.reduceOption.foldl (fun behind item => .seq item behind) .empty
  match group.ahead with
  | none => last
  | some ahead => .alt ahead last

def next (group : OpenGroup) : OpenGroup := ⟨some group.total, []⟩

def repeatLast? (group : OpenGroup) (least : Nat) (most : Option Nat) : Option OpenGroup :=
  match group.items with
  | some item :: items => some { group with items := some (.repeated item least most) :: items }
  | _ => none

end OpenGroup

/-- One more than the greatest number of repetitions that can be written. -/
def countLimit : Nat := UInt32.size

def readCountDigits (mode : Mode) (fuel : Nat) (text : Text) : Text × Text :=
  match fuel, text with
  | fuel + 1, c :: rest =>
      if c.isDigit then
        let (digits, rest) := readCountDigits mode fuel (mode.skip rest)
        (c :: digits, rest)
      else ([], text)
  | _, _ => ([], text)

def readCount? (mode : Mode) (text : Text) : Option (Nat × Text) :=
  let text := text.dropWhile Text.isBlank
  let (digits, rest) := readCountDigits mode text.length text
  let count := Nat.ofDigitChars 10 digits 0
  if digits.isEmpty || countLimit ≤ count then none
  else some (count, mode.skip (rest.dropWhile Text.isBlank))

def readCounts? (mode : Mode) (text : Text) : Option (Nat × Option Nat × Text) := do
  let (least, rest) ← readCount? mode (mode.skip text)
  match rest with
  | '\x7d' :: rest => some (least, some least, rest)
  | ',' :: rest =>
      match mode.skip rest with
      | '\x7d' :: rest => some (least, none, rest)
      | rest =>
          let (most, rest) ← readCount? mode rest
          match rest with
          | '\x7d' :: rest => if least ≤ most then some (least, some most, rest) else none
          | _ => none
  | _ => none

/-- A question mark behind a repetition does not change what is matched, only how. -/
def dropLazy : Text → Text
  | '?' :: rest => rest
  | text => text

def readName? (text : Text) : Option (Text × Text) :=
  let name := text.takeWhile (· != '>')
  match name, text.dropWhile (· != '>') with
  | first :: others, _ :: rest =>
      let isNameChar : CharSet := fun c =>
        ['_', '.', '[', ']'].contains c || alphabetic c || ((category? ['n']).any (· c))
      if (first == '_' || alphabetic first) && others.all isNameChar then some (name, rest)
      else none
  | _, _ => none

def charItem? (mode : Mode) : Escape → Option Pattern
  | .char c byte =>
      if mode.unicode || decide (c.toNat < 0x80) then
        some (.char (mode.closeCase (CharSet.single c)))
      else if byte then none
      else some (.char (CharSet.single c))
  | .set set => some (.char set)
  | .look asked => some (.look asked)

def dot? (mode : Mode) : Option Pattern :=
  if !mode.unicode then none
  else if mode.dotAll then some (.char CharSet.all)
  else if mode.anyLineEnd then some (.char fun c => c != '\n' && c != '\x0d')
  else some (.char fun c => c != '\n')

def lineStart (mode : Mode) : Look :=
  if !mode.lines then .start else if mode.anyLineEnd then .anyLineStart else .lineStart

def lineFinish (mode : Mode) : Look :=
  if !mode.lines then .finish else if mode.anyLineEnd then .anyLineFinish else .lineFinish

inductive Opening where
  | flags (mode : Mode)
  | group (name : Option Text) (mode : Mode)

/-- Reads on behind a parenthesis. There is no looking ahead or behind. -/
def readOpeningGroup? (mode : Mode) (text : Text) : Option (Opening × Text) :=
  let named := fun rest => (readName? rest).map fun (name, rest) =>
    (Opening.group (some name) mode, rest)
  match mode.skip text with
  | '?' :: 'P' :: '<' :: rest => named rest
  | '?' :: '<' :: '=' :: _ | '?' :: '<' :: '!' :: _ => none
  | '?' :: '=' :: _ | '?' :: '!' :: _ => none
  | '?' :: '<' :: rest => named rest
  | '?' :: rest => do
      match ← Mode.readFlags? rest with
      | ([], ')' :: _) => none
      | (flags, ')' :: rest) => some (.flags (mode.turnAll flags), rest)
      | (flags, _ :: rest) => some (.group none (mode.turnAll flags), rest)
      | (_, []) => none
  | rest => some (.group none mode, rest)

/-- Reads up to the end of a group, leaving the closing parenthesis. Every step takes at least one
character, of which there are no more than `fuel`. -/
def readGroup? (fuel : Nat) (mode : Mode) (group : OpenGroup) (text : Text) :
    Option (Pattern × Text) :=
  match fuel with
  | 0 => none
  | fuel + 1 =>
      let item := fun (found : Option Pattern) (rest : Text) => do
        readGroup? fuel mode (group.add (some (← found))) rest
      match mode.skip text with
      | [] => some (group.total, [])
      | ')' :: rest => some (group.total, ')' :: rest)
      | '|' :: rest => readGroup? fuel mode group.next rest
      | '(' :: rest => do
          match ← readOpeningGroup? mode rest with
          | (.flags mode, rest) => readGroup? fuel mode (group.add none) rest
          | (.group name inside, rest) =>
              match ← readGroup? fuel inside .empty rest with
              | (inner, ')' :: rest) =>
                  readGroup? fuel mode (group.add (some (.group name inner))) rest
              | _ => none
      | '[' :: rest => do
          let (set, rest) ← readSet? mode rest
          item (some (.char set)) rest
      | '?' :: rest => do readGroup? fuel mode (← group.repeatLast? 0 (some 1)) (dropLazy rest)
      | '*' :: rest => do readGroup? fuel mode (← group.repeatLast? 0 none) (dropLazy rest)
      | '+' :: rest => do readGroup? fuel mode (← group.repeatLast? 1 none) (dropLazy rest)
      | '\x7b' :: rest => do
          let (least, most, rest) ← readCounts? mode rest
          readGroup? fuel mode (← group.repeatLast? least most) (dropLazy (mode.skip rest))
      | '\\' :: rest => do
          let (escape, rest) ← readEscape? mode rest
          item (charItem? mode escape) rest
      | '.' :: rest => item (dot? mode) rest
      | '^' :: rest => item (some (.look (lineStart mode))) rest
      | '$' :: rest => item (some (.look (lineFinish mode))) rest
      | c :: rest => item (charItem? mode (.char c false)) rest

def sizeLimit : Nat := Nat.pow 2 18

def read? (text : Text) : Option Pattern := do
  let (pattern, rest) ← readGroup? (text.length + 1) .plain .empty text
  if rest.isEmpty && decide pattern.names.Nodup && decide (pattern.size ≤ sizeLimit) then
    some pattern
  else none

end Transclusion.Pattern
