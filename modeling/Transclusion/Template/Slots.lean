import Transclusion.Template.Context
import Transclusion.Template.Tree

namespace Transclusion.Template

/-! A template bound to its data: text with references to numbered slots, and the texts that are to
fill them. Text that holds an opening brace goes through a slot as well, so that every brace in the
source belongs to a reference. -/

inductive Piece where
  | plain (text : Text)
  | slot (text : Text) (escaped : Bool)
  deriving DecidableEq

def textPieces (text : Text) : List Piece :=
  if text.contains '{' then [.slot text false] else [.plain text]

def valuePieces (text : Text) (escaped : Bool) : List Piece :=
  if text.isEmpty then [] else [.slot text escaped]

mutual

def Node.pieces (stack : List Json) : Node → List Piece
  | .text text => textPieces text
  | .value name escaped => valuePieces (shownAt stack name) escaped
  | .block name inverted children =>
      let found := lookup? stack name
      if inverted then
        if isTruthy found then [] else pieces stack children
      else
        match found with
        | some (.array items) => items.flatMap fun item => pieces (item :: stack) children
        | some value => if isTruthy (some value) then pieces (value :: stack) children else []
        | none => []

def pieces (stack : List Json) : List Node → List Piece
  | [] => []
  | node :: nodes => node.pieces stack ++ pieces stack nodes

end

/-- A template whose values are in place, but for the slots. -/
structure Bound where
  source : Text
  slots : List Text
  deriving DecidableEq

structure SlotRef where
  index : Nat
  escaped : Bool
  deriving DecidableEq

def slotOpening : Text := ['{', '{', ' ', 's', 'l', 'o', 't', '.']

def slotClosing : Text := [' ', '}', '}']

def safeMark : Text := [' ', '|', ' ', 's', 'a', 'f', 'e']

def SlotRef.text (ref : SlotRef) : Text :=
  slotOpening ++ Nat.toDigits 10 ref.index ++ (if ref.escaped then [] else safeMark) ++ slotClosing

/-- Numbers the slots in order, `index` being the next number. -/
def Bound.ofPieces (index : Nat) : List Piece → Bound
  | [] => ⟨[], []⟩
  | .plain text :: rest =>
      let behind := ofPieces index rest
      ⟨text ++ behind.source, behind.slots⟩
  | .slot text escaped :: rest =>
      let behind := ofPieces (index + 1) rest
      ⟨SlotRef.text ⟨index, escaped⟩ ++ behind.source, text :: behind.slots⟩

def bound (template : Text) (data : Data) : Except TemplateError Bound := do
  let nodes ← parse template
  return .ofPieces 0 (pieces [.object data] nodes)

def SlotRef.read? (source : Text) : Option (SlotRef × Text) := do
  let behind ← slotOpening.isPrefixOf? source
  let digits := behind.takeWhile Char.isDigit
  let behind := behind.dropWhile Char.isDigit
  if digits.isEmpty then none
  else
    let index := Nat.ofDigitChars 10 digits 0
    match safeMark.isPrefixOf? behind with
    | some behind => (slotClosing.isPrefixOf? behind).map (⟨index, false⟩, ·)
    | none => (slotClosing.isPrefixOf? behind).map (⟨index, true⟩, ·)

def escapeChar (c : Char) : Text :=
  match c with
  | '&' => ['&', 'a', 'm', 'p', ';']
  | '<' => ['&', 'l', 't', ';']
  | '>' => ['&', 'g', 't', ';']
  | '"' => ['&', 'q', 'u', 'o', 't', ';']
  | '\x27' => ['&', '#', 'x', '2', '7', ';']
  | '/' => ['&', '#', 'x', '2', 'F', ';']
  | c => [c]

def escape (text : Text) : Text :=
  text.flatMap escapeChar

def SlotRef.filled (autoescape : Bool) (slots : List Text) (ref : SlotRef) : Text :=
  let text := slots[ref.index]?.getD []
  if autoescape && ref.escaped then escape text else text

/-- Puts the slots in place of the references, the first `skip` characters being those of a
reference that has been taken already. -/
def fillFrom (autoescape : Bool) (slots : List Text) (skip : Nat) : Text → Text
  | [] => []
  | c :: rest =>
      match skip with
      | skip + 1 => fillFrom autoescape slots skip rest
      | 0 =>
          match SlotRef.read? (c :: rest) with
          | some (ref, _) =>
              ref.filled autoescape slots ++
                fillFrom autoescape slots (ref.text.length - 1) rest
          | none => c :: fillFrom autoescape slots 0 rest

def Bound.fill (autoescape : Bool) (bound : Bound) : Text :=
  fillFrom autoescape bound.slots 0 bound.source

def render (autoescape : Bool) (template : Text) (data : Data) : Except TemplateError Text :=
  if !Text.holds tagMark template then .ok template
  else do
    let bound ← bound template data
    if bound.slots.isEmpty then return bound.source else return bound.fill autoescape

end Transclusion.Template
