import Transclusion.Pattern.Basic
import Transclusion.Pattern.Mode

namespace Transclusion.Pattern

/-! What stands behind a backslash. -/

inductive Escape where
  | char (c : Char) (byte : Bool)
  | set (set : CharSet)
  | look (asked : Look)

def isMeta (c : Char) : Bool :=
  ['\\', '.', '+', '*', '?', '(', ')', '|', '[', ']', '\x7b', '\x7d', '^', '$', '#', '&', '-',
    '~'].contains c

def isEscapable (c : Char) : Bool :=
  isMeta c || (decide (c.toNat < 0x80) && !c.isAlphanum && c != '<' && c != '>')

def controlChar? : Char → Option Char
  | 'a' => some '\x07'
  | 'f' => some '\x0c'
  | 't' => some '\t'
  | 'n' => some '\n'
  | 'r' => some '\x0d'
  | 'v' => some '\x0b'
  | _ => none

def charOfCode? (code : Nat) : Option Char :=
  if code.isValidChar then some (Char.ofNat code) else none

def codeOf? (digits : Text) : Option Nat :=
  digits.foldlM (fun code digit => (Text.hexValue? digit).map (16 * code + ·)) 0

def readDigits? (mode : Mode) : Nat → Text → Option (Text × Text)
  | 0, text => some ([], text)
  | count + 1, text =>
      match text with
      | [] => none
      | c :: rest =>
          (readDigits? mode count (mode.skip rest)).map fun (digits, rest) => (c :: digits, rest)

def readBraced? (mode : Mode) (fuel : Nat) (text : Text) : Option (Text × Text) :=
  match fuel, mode.skip text with
  | fuel + 1, c :: rest =>
      if c = '\x7d' then some ([], rest)
      else (readBraced? mode fuel rest).map fun (content, rest) => (c :: content, rest)
  | _, _ => none

def readCode? (mode : Mode) (count : Nat) (text : Text) : Option (Escape × Text) := do
  match mode.skip text with
  | '\x7b' :: rest =>
      let (digits, rest) ← readBraced? mode rest.length rest
      if digits.isEmpty then none
      else
        let c ← charOfCode? (← codeOf? digits)
        some (.char c false, mode.skip rest)
  | text =>
      let (digits, rest) ← readDigits? mode count text
      let c ← charOfCode? (← codeOf? digits)
      some (.char c (count == 2), rest)

def readProperty? (mode : Mode) (negated : Bool) (text : Text) : Option (Escape × Text) := do
  let (set, negated, rest) ←
    match mode.skip text with
    | '\x7b' :: rest => do
        let (content, rest) ← readBraced? mode rest.length rest
        match Text.breakAt? ['!', '='] content with
        | some (kind, value) => some (← propertyValue? kind value, !negated, rest)
        | none =>
            match (Text.breakAt? [':'] content).or (Text.breakAt? ['='] content) with
            | some (kind, value) => some (← propertyValue? kind value, negated, rest)
            | none => some (← property? content, negated, rest)
    | '\\' :: _ => none
    | c :: rest => some (← property? [c], negated, mode.skip rest)
    | [] => none
  if mode.unicode then some (.set (mode.negate negated set), rest) else none

def boundaryNames (mode : Mode) : List (String × Look) := [
  ("start", .wordStart mode.isWord), ("end", .wordFinish mode.isWord),
  ("start-half", .wordStartHalf mode.isWord), ("end-half", .wordFinishHalf mode.isWord)]

def isBoundaryChar (c : Char) : Bool := c.isAlpha || c == '-'

/-- Reads what may stand in braces behind `\b`. Anything but a name there is left to be read as a
number of repetitions. -/
def readBoundary? (mode : Mode) (text : Text) : Option (Look × Text) :=
  match text with
  | '\x7b' :: rest =>
      match mode.skip rest with
      | [] => none
      | c :: _ =>
          if isBoundaryChar c then do
            let (content, behind) ← readBraced? mode rest.length rest
            let (_, asked) ← (boundaryNames mode).find? fun entry => entry.1.toList = content
            some (asked, behind)
          else some (.boundary mode.isWord, text)
  | _ => some (.boundary mode.isWord, text)

def letterSet? (mode : Mode) (c : Char) : Option CharSet :=
  match c with
  | 'd' => some mode.isDigit
  | 's' => some mode.isSpace
  | 'w' => some mode.isWord
  | 'D' => some mode.isDigit.complement
  | 'S' => some mode.isSpace.complement
  | 'W' => some mode.isWord.complement
  | _ => none

def readEscape? (mode : Mode) (text : Text) : Option (Escape × Text) :=
  match text with
  | [] => none
  | 'x' :: rest => readCode? mode 2 rest
  | 'u' :: rest => readCode? mode 4 rest
  | 'U' :: rest => readCode? mode 8 rest
  | 'p' :: rest => readProperty? mode false rest
  | 'P' :: rest => readProperty? mode true rest
  | 'A' :: rest => some (.look .start, rest)
  | 'z' :: rest => some (.look .finish, rest)
  | 'B' :: rest => some (.look (.noBoundary mode.isWord), rest)
  | '<' :: rest => some (.look (.wordStart mode.isWord), rest)
  | '>' :: rest => some (.look (.wordFinish mode.isWord), rest)
  | 'b' :: rest => (readBoundary? mode rest).map fun (asked, rest) => (.look asked, rest)
  | c :: rest =>
      match letterSet? mode c with
      | some set => (mode.admit? set).map (.set ·, rest)
      | none =>
          if isEscapable c then some (.char c false, rest)
          else (controlChar? c).map (.char · false, rest)

end Transclusion.Pattern
