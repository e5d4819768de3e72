import Transclusion.Yaml.Node
import Transclusion.Yaml.Plain

namespace Transclusion.Yaml

/-! What the nodes of a document hold, seen as values of some kind. -/

/-- Reading in a document, in which so many more aliases may be followed. -/
abbrev Decode (α : Type) := ReaderT Document (StateT Nat Option) α

namespace Decode

def resolve (node : Node) : Decode Node := fun document room =>
  match node with
  | .alias number =>
      match room, document.anchored.lookup number with
      | room + 1, some node => some (node, room)
      | _, _ => none
  | node => some (node, room)

/-- Every scalar is a text, as it is written. -/
def text (node : Node) : Decode Text := do
  match ← resolve node with
  | .scalar scalar => return scalar.text
  | _ => failure

def nullTag : Text := "tag:yaml.org,2002:null".toList

def boolTag : Text := "tag:yaml.org,2002:bool".toList

def intTag : Text := "tag:yaml.org,2002:int".toList

def floatTag : Text := "tag:yaml.org,2002:float".toList

def option {α : Type} (decode : Node → Decode α) (node : Node) : Decode (Option α) := do
  let node ← resolve node
  match node with
  | .scalar scalar =>
      if !scalar.isPlain then some <$> decode node
      else
        match scalar.tag with
        | none =>
            if scalar.text.isEmpty || isNull scalar.text then return none
            else some <$> decode node
        | some tag =>
            if tag = nullTag then
              if isNull scalar.text then return none else failure
            else some <$> decode node
  | _ => some <$> decode node

def bool (node : Node) : Decode Bool := do
  match ← resolve node with
  | .scalar scalar => if scalar.isPlain then (bool? scalar.text).elim failure pure else failure
  | _ => failure

def count (node : Node) : Decode Nat := do
  match ← resolve node with
  | .scalar scalar => if scalar.isPlain then (count? scalar.text).elim failure pure else failure
  | _ => failure

def isAbsent (node : Node) : Bool :=
  match node with
  | .scalar scalar => scalar.isPlain && scalar.text.isEmpty
  | _ => false

def list {α : Type} (decode : Node → Decode α) (node : Node) : Decode (List α) := do
  match ← resolve node with
  | .list _ items => items.mapM decode
  | node => if isAbsent node then return [] else failure

def entries {α : Type} (decode : Node → Decode α) (node : Node) : Decode (List (Text × α)) := do
  match ← resolve node with
  | .mapping _ entries => entries.mapM fun (key, value) => do return (← text key, ← decode value)
  | node => if isAbsent node then return [] else failure

def dict {α : Type} (decode : Node → Decode α) (node : Node) : Decode (Dict α) :=
  Dict.ofList <$> entries decode node

def isLocal (tag : Option Text) : Bool :=
  tag.any fun tag => tag.head? == some '!'

def scalarJson? (scalar : Scalar) : Option Json :=
  match scalar.tag with
  | none => if scalar.isPlain then plainJson? scalar.text else some (.string scalar.text)
  | some tag =>
      if isLocal (some tag) then none
      else if tag = boolTag then (bool? scalar.text).map .bool
      else if tag = intTag then (integer? scalar.text).bind Integer.json?
      else if tag = floatTag then (real? scalar.text).map Real.json
      else if tag = nullTag then if isNull scalar.text then some .null else none
      else some (.string scalar.text)

/-- Structured data, in which lists and mappings are nested no deeper than `room`. -/
def json (room : Nat) (node : Node) : Decode Json := do
  match ← resolve node, room with
  | .scalar scalar, _ => (scalarJson? scalar).elim failure pure
  | .list tag items, room + 1 =>
      if isLocal tag then failure else return .array (← items.mapM (json room))
  | .mapping tag entries, room + 1 =>
      if isLocal tag then failure
      else
        let members ← entries.mapM fun (key, value) => do
          return (← text key, ← json room value)
        return .object (Dict.ofList members)
  | _, _ => failure

/-- The names and nodes of the fields of a record. A list has the fields in their usual order. -/
def fields (names : List Text) (node : Node) : Decode (List (Text × Node)) := do
  match ← resolve node with
  | .list _ items =>
      if items.length ≤ names.length then return names.zip items else failure
  | .mapping _ entries =>
      let found ← entries.mapM fun (key, value) => do return (← text key, value)
      let known := found.filter fun field => names.contains field.1
      if (known.map Prod.fst).Nodup then return known else failure
  | node => if isAbsent node then return [] else failure

/-- The deepest nesting of lists and mappings, and how many aliases may be followed for each mark
of a document. -/
def nestingLimit : Nat := 128

def aliasLimit : Nat := 100

/-- Reads a text of one document. A record without fields stands in for none. -/
def run? {α : Type} (decode : Node → Decode α) (text : Text) : Option α := do
  let document ← Document.read? text
  let (value, _) ← decode (document.root.getD .absent) document (aliasLimit * document.marks)
  return value

end Decode

end Transclusion.Yaml
