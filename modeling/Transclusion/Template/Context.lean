import Transclusion.Json.Print

namespace Transclusion.Template

/-! Names in templates are looked up in a stack of contexts, the innermost first. -/

def indexLimit : Nat := UInt64.size

def index? (name : Text) : Option Nat :=
  let digits :=
    match name with
    | '+' :: digits => digits
    | _ => name
  if digits.isEmpty || !digits.all Char.isDigit then none
  else
    let index := Nat.ofDigitChars 10 digits 0
    if index < indexLimit then some index else none

def child? (value : Json) (name : Text) : Option Json :=
  match value with
  | .object members => Dict.find? members name
  | .array items => (index? name).bind (items[·]?)
  | _ => none

def descend? (value : Json) (path : List Text) : Option Json :=
  path.foldlM child? value

/-- The first context that holds a whole dotted path decides. A dot alone names the innermost
context. -/
def lookup? (stack : List Json) (name : Text) : Option Json :=
  if name = ['.'] then stack.head?
  else stack.findSome? fun context => descend? context (Text.split '.' name)

def isTruthy : Option Json → Bool
  | none | some .null => false
  | some (.bool value) => value
  | some (.number value) => !value.isZero
  | some (.string text) => !text.isEmpty
  | some (.array items) => !items.isEmpty
  | some (.object _) => true

mutual

/-- A value as it is shown: lists with commas in between, objects as structured data. -/
def shown : Json → Text
  | .null => []
  | .string text => text
  | .bool value => Json.printBool value
  | .number value => value.print
  | .array [] => []
  | .array (item :: items) => shown item ++ shownMore items
  | .object members => (Json.object members).print

def shownMore : List Json → Text
  | [] => []
  | item :: items => ',' :: shown item ++ shownMore items

end

def shownAt (stack : List Json) (name : Text) : Text :=
  ((lookup? stack name).map shown).getD []

end Transclusion.Template
