import Transclusion.Text.Percent
import Transclusion.Yaml.Cursor

namespace Transclusion.Yaml

/-! Scalars as they are written: plain, in quotes, or as blocks of lines. -/

inductive Gap where
  | none
  | blanks (text : Text)
  | breaks (first more : Text)

namespace Gap

def addBlank (gap : Gap) (c : Char) : Gap :=
  match gap with
  | .none => .blanks [c]
  | .blanks text => .blanks (text ++ [c])
  | .breaks first more => .breaks first more

def addBreak (gap : Gap) (text : Text) : Gap :=
  match gap with
  | .breaks first more => .breaks first (more ++ text)
  | .none | .blanks _ => .breaks text []

/-- A single line break counts as a blank, and of several all but the first are kept. -/
def text : Gap → Text
  | .none => []
  | .blanks text => text
  | .breaks ['\n'] [] => [' ']
  | .breaks ['\n'] more => more
  | .breaks first more => first ++ more

def isBroken : Gap → Bool
  | .breaks _ _ => true
  | .none | .blanks _ => false

def isNone : Gap → Bool
  | .none => true
  | .blanks _ | .breaks _ _ => false

end Gap

def isFlowMark (c : Char) : Bool := [',', '[', ']', '\x7b', '\x7d'].contains c

def endsPlain (flow : Bool) (text : Text) : Bool :=
  match text with
  | [] => true
  | ':' :: rest => endsWord rest
  | c :: _ => flow && isFlowMark c

/-- Whether a text has a colon with a mark behind it, which no plain scalar in a flow has. -/
def isColonMark (text : Text) : Bool :=
  match text with
  | ':' :: c :: _ => c == '?' || isFlowMark c
  | _ => false

/-- Reads a plain scalar. Its lines begin at the column `indent` or further on. The answer tells
whether a line break has been left out behind it. -/
def readPlain? (flow : Bool) (indent : Nat) (fuel : Nat) (gap : Gap) (cursor : Cursor) :
    Option (Text × Bool × Cursor) :=
  match fuel, cursor.rest with
  | fuel + 1, c :: _ =>
      if isBlank c then
        if gap.isBroken && c == '\t' && decide (cursor.column < indent) then none
        else readPlain? flow indent fuel (gap.addBlank c) (cursor.skip 1)
      else if isBreak c then
        readPlain? flow indent fuel (gap.addBreak cursor.breakText) cursor.skipBreak
      else if !gap.isNone && ((!flow && decide (cursor.column < indent)) ||
          cursor.isAtDocument || c == '#') then
        some ([], gap.isBroken, cursor)
      else if flow && isColonMark cursor.rest then none
      else if endsPlain flow cursor.rest then some ([], gap.isBroken, cursor)
      else
        (readPlain? flow indent fuel .none (cursor.skip 1)).map fun (text, broken, cursor) =>
          (gap.text ++ c :: text, broken, cursor)
  | _, _ => some ([], gap.isBroken, cursor)

def escaped? : Char → Option Char
  | '0' => some '\x00'
  | 'a' => some '\x07'
  | 'b' => some '\x08'
  | 't' | '\t' => some '\t'
  | 'n' => some '\n'
  | 'v' => some '\x0b'
  | 'f' => some '\x0c'
  | 'r' => some '\x0d'
  | 'e' => some '\x1b'
  | ' ' => some ' '
  | '"' => some '"'
  | '/' => some '/'
  | '\\' => some '\\'
  | 'N' => some '\u0085'
  | '_' => some '\u00a0'
  | 'L' => some '\u2028'
  | 'P' => some '\u2029'
  | _ => none

def codeDigits? : Char → Option Nat
  | 'x' => some 2
  | 'u' => some 4
  | 'U' => some 8
  | _ => none

def readEscape? (text : Text) : Option (Char × Nat) :=
  match text with
  | [] => none
  | c :: rest =>
      match codeDigits? c with
      | none => (escaped? c).map (·, 1)
      | some count => do
          let digits := rest.take count
          let code ← digits.foldlM (fun code digit =>
            (Text.hexValue? digit).map (16 * code + ·)) 0
          if digits.length = count ∧ code.isValidChar then some (Char.ofNat code, count + 1)
          else none

def readSingle? (fuel : Nat) (gap : Gap) (cursor : Cursor) : Option (Text × Cursor) :=
  match fuel, cursor.rest with
  | fuel + 1, c :: rest =>
      let goOn := fun (c : Char) (count : Nat) =>
        (readSingle? fuel .none (cursor.skip count)).map fun (text, cursor) =>
          (gap.text ++ c :: text, cursor)
      if isBlank c then readSingle? fuel (gap.addBlank c) (cursor.skip 1)
      else if isBreak c then readSingle? fuel (gap.addBreak cursor.breakText) cursor.skipBreak
      else if cursor.isAtDocument then none
      else if c == '\x27' then
        match rest with
        | '\x27' :: _ => goOn c 2
        | _ => some (gap.text, cursor.skip 1)
      else goOn c 1
  | _, _ => none

/-- Reads a scalar in double quotes behind the first of them. A backslash at the end of a line
joins it to the next. -/
def readDouble? (fuel : Nat) (gap : Gap) (cursor : Cursor) : Option (Text × Cursor) :=
  match fuel, cursor.rest with
  | fuel + 1, c :: rest =>
      let goOn := fun (c : Char) (count : Nat) =>
        (readDouble? fuel .none (cursor.skip count)).map fun (text, cursor) =>
          (gap.text ++ c :: text, cursor)
      if isBlank c then readDouble? fuel (gap.addBlank c) (cursor.skip 1)
      else if isBreak c then readDouble? fuel (gap.addBreak cursor.breakText) cursor.skipBreak
      else if cursor.isAtDocument then none
      else if c == '"' then some (gap.text, cursor.skip 1)
      else if c == '\\' then
        if rest.head?.any isBreak then
          (readDouble? fuel (.breaks [] []) (cursor.skip 1).skipBreak).map
            fun (text, cursor) => (gap.text ++ text, cursor)
        else do
          let (c, count) ← readEscape? rest
          goOn c (count + 1)
      else goOn c 1
  | _, _ => none

/-! Blocks of lines. -/

inductive Chomp where
  | strip
  | clip
  | keep

def readBlockHead? (text : Text) : Option (Chomp × Option Nat × Nat) :=
  let chomp? : Char → Option Chomp := fun c =>
    if c = '+' then some .keep else if c = '-' then some .strip else none
  let digit? : Char → Option Nat := fun c =>
    if c.isDigit then some (c.toNat - '0'.toNat) else none
  let head :=
    match text with
    | [] => (Chomp.clip, none, 0)
    | c :: rest =>
        let next := rest.head?
        match chomp? c, digit? c with
        | some chomp, _ =>
            match next.bind digit? with
            | some digit => (chomp, some digit, 2)
            | none => (chomp, none, 1)
        | none, some digit =>
            match next.bind chomp? with
            | some chomp => (chomp, some digit, 2)
            | none => (.clip, some digit, 1)
        | none, none => (.clip, none, 0)
  if head.2.1 = some 0 then none else some head

/-- Reads the blank lines ahead of a line of a block, and the indentation of that line up to
`indent`, or all of it. The answer has the breaks and the greatest column met. -/
def readBlankLines? (indent : Option Nat) (fuel : Nat) (reached : Nat) (cursor : Cursor) :
    Option (Text × Nat × Cursor) :=
  match fuel with
  | 0 => none
  | fuel + 1 =>
      let blanks := (cursor.rest.takeWhile (· == ' ')).length
      let cursor := cursor.skip (indent.elim blanks fun indent => min blanks (indent - cursor.column))
      let reached := max reached cursor.column
      match cursor.rest with
      | [] => some ([], reached, cursor)
      | c :: _ =>
          if c == '\t' && indent.all (cursor.column < ·) then none
          else if isBreak c then
            (readBlankLines? indent fuel reached cursor.skipBreak).map
              fun (breaks, reached, after) => (cursor.breakText ++ breaks, reached, after)
          else some ([], reached, cursor)

/-- Reads the lines of a block that are indented by `indent`. What is ahead of a line is the break
of the line before, and the blank lines in between. -/
def readBlockLines? (folded : Bool) (chomp : Chomp) (indent : Nat) (fuel : Nat) (first : Text)
    (blankLines : Text) (afterBlank : Bool) (cursor : Cursor) : Option (Text × Cursor) :=
  match fuel, cursor.rest with
  | fuel + 1, c :: _ =>
      if cursor.column = indent then
        let startsBlank := isBlank c
        let ahead :=
          if folded && first == ['\n'] && !afterBlank && !startsBlank then
            if blankLines.isEmpty then [' '] else blankLines
          else first ++ blankLines
        let line := cursor.rest.takeWhile (!isBreak ·)
        let cursor := cursor.skip line.length
        do
          let (blankLines, _, after) ←
            if cursor.rest.isEmpty then some ([], 0, cursor)
            else readBlankLines? (some indent) fuel 0 cursor.skipBreak
          let (text, after) ← readBlockLines? folded chomp indent fuel cursor.breakText blankLines
            startsBlank after
          return (ahead ++ line ++ text, after)
      else some (tail, cursor)
  | _, _ => some (tail, cursor)
where
  tail : Text :=
    match chomp with
    | .strip => []
    | .clip => first
    | .keep => first ++ blankLines

/-- Reads a block behind its mark. It is indented further than what it stands in, which is at the
column `outer`, if in anything. -/
def readBlock? (folded : Bool) (outer : Option Nat) (cursor : Cursor) :
    Option (Text × Cursor) := do
  let (chomp, written, count) ← readBlockHead? cursor.rest
  let cursor ← (cursor.skip count).endLine?
  let indent := written.map (outer.getD 0 + ·)
  let fuel := cursor.rest.length + 1
  let (blankLines, reached, cursor) ← readBlankLines? indent fuel 0 cursor
  let least := max 1 (outer.elim 0 (· + 1))
  readBlockLines? folded chomp (indent.getD (max reached least)) fuel [] blankLines false cursor

end Transclusion.Yaml
