import Transclusion.Yaml.Scalar
import Transclusion.Yaml.Tag

namespace Transclusion.Yaml

/-! The tokens of a text. Where the indentation begins or ends a list or a mapping there is a token
as well, and one ahead of each key. -/

inductive Token where
  | directive (directive : DocumentDirective)
  | documentStart
  | documentEnd
  | listStart
  | mappingStart
  | blockEnd
  | flowListStart
  | flowListEnd
  | flowMappingStart
  | flowMappingEnd
  | flowEntry
  | entry
  | key
  | value
  | alias (name : Text)
  | anchor (name : Text)
  | tag (tag : WrittenTag)
  | scalar (isPlain : Bool) (text : Text)

/-- A token that will have been a key if a colon follows. -/
structure KeyMark where
  ahead : Nat
  index : Nat
  line : Nat
  column : Nat
  required : Bool

structure Lexer where
  cursor : Cursor
  tokens : List Token
  indents : List Nat
  /-- Which token may turn out to be a key, outside of any flow, and within each around. -/
  blockKey : Option KeyMark
  flowKeys : List (Option KeyMark)
  keyAllowed : Bool

namespace Lexer

def keyLimit : Nat := 1024

def start (text : Text) : Lexer where
  cursor := .start text
  tokens := []
  indents := []
  blockKey := none
  flowKeys := []
  keyAllowed := true

def inFlow (lexer : Lexer) : Bool := !lexer.flowKeys.isEmpty

def push (lexer : Lexer) (token : Token) : Lexer :=
  { lexer with tokens := token :: lexer.tokens }

def insert (lexer : Lexer) (ahead : Nat) (token : Token) : Lexer :=
  let behind := lexer.tokens.length - ahead
  { lexer with tokens := lexer.tokens.take behind ++ token :: lexer.tokens.drop behind }

def topKey (lexer : Lexer) : Option KeyMark :=
  match lexer.flowKeys with
  | key :: _ => key
  | [] => lexer.blockKey

def setTopKey (lexer : Lexer) (key : Option KeyMark) : Lexer :=
  match lexer.flowKeys with
  | _ :: keys => { lexer with flowKeys := key :: keys }
  | [] => { lexer with blockKey := key }

/-- Gives up the key that may be. Where one is required that is a fault. -/
def dropKey? (lexer : Lexer) : Option Lexer :=
  if lexer.topKey.any (·.required) then none else some (lexer.setTopKey none)

def saveKey? (lexer : Lexer) : Option Lexer :=
  if lexer.keyAllowed then do
    let cursor := lexer.cursor
    let lexer ← lexer.dropKey?
    some (lexer.setTopKey (some {
      ahead := lexer.tokens.length
      index := cursor.index
      line := cursor.line
      column := cursor.column
      required := !lexer.inFlow && lexer.indents.head? == some cursor.column }))
  else some lexer

def isStale (cursor : Cursor) (key : KeyMark) : Bool :=
  decide (key.line < cursor.line) || decide (key.index + keyLimit < cursor.index)

/-- A key stands in one line, and is not too long. -/
def dropStale? (lexer : Lexer) : Option Lexer :=
  let fresh? : Option KeyMark → Option (Option KeyMark) := fun key =>
    if key.any (isStale lexer.cursor) then
      if key.any (·.required) then none else some none
    else some key
  do
    let blockKey ← fresh? lexer.blockKey
    let flowKeys ← lexer.flowKeys.mapM fresh?
    some { lexer with blockKey, flowKeys }

def indentTo (lexer : Lexer) (column ahead : Nat) (token : Token) : Lexer :=
  if !lexer.inFlow && lexer.indents.head?.all (· < column) then
    { lexer.insert ahead token with indents := column :: lexer.indents }
  else lexer

def dedentTo (lexer : Lexer) (column : Option Nat) : Lexer :=
  if lexer.inFlow then lexer
  else
    let ended := lexer.indents.takeWhile fun indent => column.all (· < indent)
    { lexer with
      indents := lexer.indents.drop ended.length
      tokens := ended.map (fun _ => .blockEnd) ++ lexer.tokens }

/-- Leaves out blanks, comments and line breaks. Tabs do not indent. -/
def skipBlank (fuel : Nat) (lexer : Lexer) : Lexer :=
  match fuel with
  | 0 => lexer
  | fuel + 1 =>
      let tabs := lexer.inFlow || !lexer.keyAllowed
      let cursor := lexer.cursor.skipWhile fun c => c == ' ' || (tabs && c == '\t')
      let cursor :=
        match cursor.rest with
        | '#' :: _ => cursor.skipWhile (!isBreak ·)
        | _ => cursor
      match cursor.rest with
      | [] => { lexer with cursor }
      | c :: _ =>
          if isBreak c then
            skipBlank fuel { lexer with
              cursor := cursor.skipBreak
              keyAllowed := lexer.keyAllowed || !lexer.inFlow }
          else { lexer with cursor }

def take (lexer : Lexer) (count : Nat) (keyAllowed : Bool) (token : Token) : Lexer :=
  { lexer.push token with cursor := lexer.cursor.skip count, keyAllowed }

def takeDocumentMark? (lexer : Lexer) (token : Token) : Option Lexer := do
  let lexer ← (lexer.dedentTo none).dropKey?
  some (lexer.take 3 false token)

def takeDirective? (lexer : Lexer) : Option Lexer := do
  let lexer ← (lexer.dedentTo none).dropKey?
  let (directive, cursor) ← readDirective? (lexer.cursor.skip 1)
  some { lexer.push (.directive directive) with cursor, keyAllowed := false }

def takeFlowStart? (lexer : Lexer) (token : Token) : Option Lexer := do
  let lexer ← lexer.saveKey?
  some { lexer.take 1 true token with flowKeys := none :: lexer.flowKeys }

def takeFlowEnd? (lexer : Lexer) (token : Token) : Option Lexer := do
  let lexer ← lexer.dropKey?
  some { lexer.take 1 false token with flowKeys := lexer.flowKeys.drop 1 }

def takeFlowEntry? (lexer : Lexer) : Option Lexer := do
  let lexer ← lexer.dropKey?
  some (lexer.take 1 true .flowEntry)

def beginHere? (lexer : Lexer) (token : Token) : Option Lexer :=
  if lexer.inFlow then some lexer
  else if lexer.keyAllowed then
    some (lexer.indentTo lexer.cursor.column lexer.tokens.length token)
  else none

def takeEntry? (lexer : Lexer) : Option Lexer := do
  let lexer ← (← lexer.beginHere? .listStart).dropKey?
  some (lexer.take 1 true .entry)

def takeKey? (lexer : Lexer) : Option Lexer := do
  let lexer ← (← lexer.beginHere? .mappingStart).dropKey?
  some (lexer.take 1 (!lexer.inFlow) .key)

def takeValue? (lexer : Lexer) : Option Lexer :=
  match lexer.topKey with
  | some key =>
      let lexer := (lexer.insert key.ahead .key).indentTo key.column key.ahead .mappingStart
      some ((lexer.setTopKey none).take 1 false .value)
  | none => do
      let lexer ← lexer.beginHere? .mappingStart
      some (lexer.take 1 (!lexer.inFlow) .value)

def endsName (text : Text) : Bool :=
  endsWord text ||
    text.head?.any fun c => ['?', ':', ',', ']', '\x7d', '%', '@', '\x60'].contains c

def takeName? (lexer : Lexer) (token : Text → Token) : Option Lexer := do
  let lexer ← lexer.saveKey?
  let cursor := lexer.cursor.skip 1
  let name := cursor.rest.takeWhile isNameChar
  let cursor := cursor.skip name.length
  if name.isEmpty || !endsName cursor.rest then none
  else some { lexer.push (token name) with cursor, keyAllowed := false }

def takeTag? (lexer : Lexer) : Option Lexer := do
  let lexer ← lexer.saveKey?
  let (tag, cursor) ← readTag? lexer.inFlow lexer.cursor
  some { lexer.push (.tag tag) with cursor, keyAllowed := false }

def takeBlock? (lexer : Lexer) (folded : Bool) : Option Lexer := do
  let lexer ← lexer.dropKey?
  let (text, cursor) ← readBlock? folded lexer.indents.head? (lexer.cursor.skip 1)
  some { lexer.push (.scalar false text) with cursor, keyAllowed := true }

def takeQuoted? (lexer : Lexer) (double : Bool) : Option Lexer := do
  let lexer ← lexer.saveKey?
  let cursor := lexer.cursor.skip 1
  let fuel := cursor.rest.length + 1
  let (text, cursor) ←
    if double then readDouble? fuel .none cursor else readSingle? fuel .none cursor
  some { lexer.push (.scalar false text) with cursor, keyAllowed := false }

def takePlain? (lexer : Lexer) : Option Lexer := do
  let lexer ← lexer.saveKey?
  let indent := lexer.indents.head?.elim 0 (· + 1)
  let fuel := lexer.cursor.rest.length + 1
  let (text, broken, cursor) ← readPlain? lexer.inFlow indent fuel .none lexer.cursor
  some { lexer.push (.scalar true text) with cursor, keyAllowed := broken }

def indicators : List Char :=
  ['#', ',', '[', ']', '\x7b', '\x7d', '&', '*', '!', '|', '>', '\x27', '"', '%', '@', '\x60']

def beginsPlain (flow : Bool) (c : Char) (rest : Text) : Bool :=
  if c == '-' then !endsWord rest
  else if c == '?' || c == ':' then !flow && !endsWord rest
  else !isBlank c && !indicators.contains c

def takeNext? (lexer : Lexer) (c : Char) (rest : Text) : Option Lexer :=
  let cursor := lexer.cursor
  let alone := lexer.inFlow || endsWord rest
  if cursor.column = 0 ∧ c = '%' then lexer.takeDirective?
  else if cursor.isAtMark '-' then lexer.takeDocumentMark? .documentStart
  else if cursor.isAtMark '.' then lexer.takeDocumentMark? .documentEnd
  else
    match c with
    | '[' => lexer.takeFlowStart? .flowListStart
    | '\x7b' => lexer.takeFlowStart? .flowMappingStart
    | ']' => lexer.takeFlowEnd? .flowListEnd
    | '\x7d' => lexer.takeFlowEnd? .flowMappingEnd
    | ',' => lexer.takeFlowEntry?
    | '*' => lexer.takeName? .alias
    | '&' => lexer.takeName? .anchor
    | '!' => lexer.takeTag?
    | '\x27' => lexer.takeQuoted? false
    | '"' => lexer.takeQuoted? true
    | _ =>
        if c = '-' ∧ endsWord rest then lexer.takeEntry?
        else if c = '?' ∧ alone then lexer.takeKey?
        else if c = ':' ∧ alone then lexer.takeValue?
        else if c = '|' ∧ !lexer.inFlow then lexer.takeBlock? false
        else if c = '>' ∧ !lexer.inFlow then lexer.takeBlock? true
        else if beginsPlain lexer.inFlow c rest then lexer.takePlain?
        else none

def run? (fuel : Nat) (lexer : Lexer) : Option (List Token) :=
  match fuel with
  | 0 => none
  | fuel + 1 => do
      let lexer ← (lexer.skipBlank (lexer.cursor.rest.length + 1)).dropStale?
      let lexer := lexer.dedentTo (some lexer.cursor.column)
      match lexer.cursor.rest with
      | [] => do
          let lexer ← (lexer.dedentTo none).dropKey?
          some lexer.tokens.reverse
      | c :: rest => do run? fuel (← lexer.takeNext? c rest)

end Lexer

/-- A byte order mark ahead of the text does not count. -/
def tokens? (text : Text) : Option (List Token) :=
  if text.all isPrintable then
    let text :=
      match text with
      | '\ufeff' :: rest => rest
      | _ => text
    (Lexer.start text).run? (text.length + 1)
  else none

end Transclusion.Yaml
