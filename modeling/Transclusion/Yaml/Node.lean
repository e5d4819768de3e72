import Transclusion.Yaml.Token

namespace Transclusion.Yaml

/-! The nodes of a document. A node may stand for another one by its name. -/

structure Scalar where
  tag : Option Text
  isPlain : Bool
  text : Text
  deriving DecidableEq

inductive Node where
  | scalar (scalar : Scalar)
  | list (tag : Option Text) (items : List Node)
  | mapping (tag : Option Text) (entries : List (Node × Node))
  | alias (number : Nat)

/-- What is left where a node may stand, but none does. -/
def Node.absent : Node := .scalar ⟨none, true, []⟩

mutual

def Node.marks : Node → Nat
  | .scalar _ | .alias _ => 1
  | .list _ items => marksOfItems items + 2
  | .mapping _ entries => marksOfEntries entries + 2

def marksOfItems : List Node → Nat
  | [] => 0
  | item :: items => item.marks + marksOfItems items

def marksOfEntries : List (Node × Node) → Nat
  | [] => 0
  | (key, value) :: entries => key.marks + value.marks + marksOfEntries entries

end

structure Document where
  root : Option Node
  anchored : List (Nat × Node)

structure Builder where
  tokens : List Token
  handles : Handles
  names : List (Text × Nat)
  anchored : List (Nat × Node)

namespace Builder

def drop (builder : Builder) : Builder :=
  { builder with tokens := builder.tokens.drop 1 }

/-- Numbers a name by how many different ones there are already. -/
def register (builder : Builder) (name : Text) : Nat × Builder :=
  let number := (builder.names.map Prod.fst).eraseDups.length
  (number, { builder with names := (name, number) :: builder.names })

def readAnchor (builder : Builder) : Option Text × Builder :=
  match builder.tokens with
  | .anchor name :: _ => (some name, builder.drop)
  | _ => (none, builder)

def readTag (builder : Builder) : Option WrittenTag × Builder :=
  match builder.tokens with
  | .tag tag :: _ => (some tag, builder.drop)
  | _ => (none, builder)

def readProperties (builder : Builder) : Option Text × Option WrittenTag × Builder :=
  let (anchor, builder) := builder.readAnchor
  let (tag, builder) := builder.readTag
  if anchor.isSome then (anchor, tag, builder)
  else
    let (anchor, builder) := builder.readAnchor
    (anchor, tag, builder)

/-- Reads a directive of a document. No handle comes twice, nor does the version. -/
def readDirectives? (versioned : Bool) (known : Handles) : List Token →
    Option (Handles × List Token)
  | .directive (.version major minor) :: tokens =>
      if versioned || major != 1 || (minor != 1 && minor != 2) then none
      else readDirectives? true known tokens
  | .directive (.handle name stands) :: tokens =>
      if (known.lookup name).isSome then none
      else readDirectives? versioned (known ++ [(name, stands)]) tokens
  | tokens => some (known ++ usualHandles, tokens)

mutual

/-- Reads a node. In a block it may be a block itself, and behind a key a list that is indented no
further than the key. -/
def readNode? (fuel : Nat) (block listHere : Bool) (builder : Builder) :
    Option (Node × Builder) :=
  match fuel with
  | 0 => none
  | fuel + 1 =>
      match builder.tokens with
      | .alias name :: _ =>
          (builder.names.lookup name).map fun number => (.alias number, builder.drop)
      | _ => do
          let (anchor, written, builder) := builder.readProperties
          let tag ←
            match written with
            | none => some none
            | some written => (written.full? builder.handles).map some
          let (number, builder) :=
            match anchor with
            | none => (none, builder)
            | some name =>
                let (number, builder) := builder.register name
                (some number, builder)
          let (node, builder) ← readContent? fuel block listHere
            (anchor.isSome || tag.isSome) tag builder
          match number with
          | none => some (node, builder)
          | some number =>
              some (node, { builder with anchored := (number, node) :: builder.anchored })

def readContent? (fuel : Nat) (block listHere mayBeAbsent : Bool) (tag : Option Text)
    (builder : Builder) : Option (Node × Builder) :=
  match fuel with
  | 0 => none
  | fuel + 1 =>
      let listed := fun (read : Option (List Node × Builder)) =>
        read.map fun (items, builder) => (Node.list tag items, builder)
      let mapped := fun (read : Option (List (Node × Node) × Builder)) =>
        read.map fun (entries, builder) => (Node.mapping tag entries, builder)
      match builder.tokens with
      | .entry :: _ =>
          if listHere then listed (readEntries? fuel false builder)
          else if mayBeAbsent then some (.scalar ⟨tag, true, []⟩, builder)
          else none
      | .scalar isPlain text :: _ =>
          some (.scalar ⟨tag.filter (· != ['!']), isPlain, text⟩, builder.drop)
      | .flowListStart :: _ => listed (readFlowItems? fuel true builder.drop)
      | .flowMappingStart :: _ => mapped (readFlowEntries? fuel true builder.drop)
      | .listStart :: _ =>
          if block then listed (readEntries? fuel true builder.drop)
          else if mayBeAbsent then some (.scalar ⟨tag, true, []⟩, builder)
          else none
      | .mappingStart :: _ =>
          if block then mapped (readMapping? fuel builder.drop)
          else if mayBeAbsent then some (.scalar ⟨tag, true, []⟩, builder)
          else none
      | _ => if mayBeAbsent then some (.scalar ⟨tag, true, []⟩, builder) else none

/-- Reads a list in a block, which ends with a token of its own if it has an indentation of its
own. -/
def readEntries? (fuel : Nat) (indented : Bool) (builder : Builder) :
    Option (List Node × Builder) :=
  match fuel with
  | 0 => none
  | fuel + 1 =>
      match builder.tokens with
      | .entry :: next => do
          let isAbsent :=
            match next with
            | .entry :: _ | .blockEnd :: _ => true
            | .key :: _ | .value :: _ => !indented
            | _ => false
          let (item, builder) ←
            if isAbsent then some (.absent, builder.drop)
            else readNode? fuel true false builder.drop
          let (items, builder) ← readEntries? fuel indented builder
          some (item :: items, builder)
      | .blockEnd :: _ => some ([], if indented then builder.drop else builder)
      | _ => if indented then none else some ([], builder)

def readMapping? (fuel : Nat) (builder : Builder) : Option (List (Node × Node) × Builder) :=
  match fuel with
  | 0 => none
  | fuel + 1 =>
      match builder.tokens with
      | .key :: _ => do
          let (key, builder) ← readMappingNode? fuel builder.drop
          let (value, builder) ←
            match builder.tokens with
            | .value :: _ => readMappingNode? fuel builder.drop
            | _ => some (.absent, builder)
          let (entries, builder) ← readMapping? fuel builder
          some ((key, value) :: entries, builder)
      | .blockEnd :: _ => some ([], builder.drop)
      | _ => none

def readMappingNode? (fuel : Nat) (builder : Builder) : Option (Node × Builder) :=
  match fuel with
  | 0 => none
  | fuel + 1 =>
      match builder.tokens with
      | .key :: _ | .value :: _ | .blockEnd :: _ => some (.absent, builder)
      | _ => readNode? fuel true true builder

/-- Reads the items of a list in brackets. A single entry of a mapping may stand for an item. -/
def readFlowItems? (fuel : Nat) (first : Bool) (builder : Builder) :
    Option (List Node × Builder) :=
  match fuel with
  | 0 => none
  | fuel + 1 => do
      let builder ← beginFlowItem? first builder
      match builder.tokens with
      | .flowListEnd :: _ => some ([], builder.drop)
      | .key :: _ => do
          let (key, builder) ← readFlowKey? fuel builder.drop
          let (value, builder) ← readFlowValue? fuel builder
          let (items, builder) ← readFlowItems? fuel false builder
          some (.mapping none [(key, value)] :: items, builder)
      | _ => do
          let (item, builder) ← readNode? fuel false false builder
          let (items, builder) ← readFlowItems? fuel false builder
          some (item :: items, builder)

def readFlowKey? (fuel : Nat) (builder : Builder) : Option (Node × Builder) :=
  match fuel with
  | 0 => none
  | fuel + 1 =>
      match builder.tokens with
      | .value :: _ | .flowEntry :: _ | .flowListEnd :: _ => some (.absent, builder.drop)
      | _ => readNode? fuel false false builder

def readFlowValue? (fuel : Nat) (builder : Builder) : Option (Node × Builder) :=
  match fuel with
  | 0 => none
  | fuel + 1 =>
      match builder.tokens with
      | .value :: next =>
          match next with
          | .flowEntry :: _ | .flowListEnd :: _ | .flowMappingEnd :: _ =>
              some (.absent, builder.drop)
          | _ => readNode? fuel false false builder.drop
      | _ => some (.absent, builder)

def readFlowEntries? (fuel : Nat) (first : Bool) (builder : Builder) :
    Option (List (Node × Node) × Builder) :=
  match fuel with
  | 0 => none
  | fuel + 1 => do
      let builder ← beginFlowEntry? first builder
      match builder.tokens with
      | .flowMappingEnd :: _ => some ([], builder.drop)
      | .key :: next => do
          let (key, builder) ←
            match next with
            | .value :: _ | .flowEntry :: _ | .flowMappingEnd :: _ =>
                some (.absent, builder.drop)
            | _ => readNode? fuel false false builder.drop
          let (value, builder) ← readFlowValue? fuel builder
          let (entries, builder) ← readFlowEntries? fuel false builder
          some ((key, value) :: entries, builder)
      | _ => do
          let (key, builder) ← readNode? fuel false false builder
          let (entries, builder) ← readFlowEntries? fuel false builder
          some ((key, .absent) :: entries, builder)

def beginFlowItem? (first : Bool) (builder : Builder) : Option Builder :=
  match builder.tokens with
  | .flowListEnd :: _ => some builder
  | .flowEntry :: _ => if first then some builder else some builder.drop
  | _ => if first then some builder else none

def beginFlowEntry? (first : Bool) (builder : Builder) : Option Builder :=
  match builder.tokens with
  | .flowMappingEnd :: _ => some builder
  | .flowEntry :: _ => if first then some builder else some builder.drop
  | _ => if first then some builder else none

end

def start (handles : Handles) (tokens : List Token) : Builder where
  tokens := tokens
  handles := handles
  names := []
  anchored := []

def readRoot? (builder : Builder) : Option (Option Node × Builder) := do
  let (node, builder) ← readNode? (8 * builder.tokens.length + 8) true false builder
  return (some node, builder)

def readDocument? (tokens : List Token) : Option (Option Node × Builder) :=
  match tokens, readDirectives? false [] tokens with
  | [], _ => some (none, start usualHandles [])
  | _, none => none
  | _, some (handles, .documentStart :: rest) =>
      match rest with
      | [] | .directive _ :: _ | .documentStart :: _ | .documentEnd :: _ =>
          some (some .absent, start handles rest)
      | _ => readRoot? (start handles rest)
  | .directive _ :: _, some _ => none
  | _, some (handles, rest) => readRoot? (start handles rest)

end Builder

def isDocumentEnd : Token → Bool
  | .documentEnd => true
  | _ => false

def Document.read? (text : Text) : Option Document := do
  let (root, builder) ← Builder.readDocument? (← tokens? text)
  if (builder.tokens.dropWhile isDocumentEnd).isEmpty then some ⟨root, builder.anchored⟩ else none

def Document.marks (document : Document) : Nat :=
  document.root.elim 1 Node.marks

end Transclusion.Yaml
