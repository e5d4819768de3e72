import Transclusion.Command.Address
import Transclusion.Dict

namespace Transclusion

/-! What a command line asks for. -/

inductive Command where
  | render (file config : Text) (channel : Option Text) (page : Text) (params : Dict Text)
  | inspect (file config : Text) (channel : Option Text) (json : Bool)
  | serve (config : Text) (endpoint : Command.Endpoint)
  | version

namespace Command

/-- Whether an option is followed by a value, and whether it may be given more than once. -/
inductive OptionKind where
  | value
  | values
  | switch
  deriving DecidableEq

abbrev Options := List (Text × OptionKind)

structure Given where
  operands : List Text
  options : List (Text × Text)

def Given.add (given : Given) (name value : Text) : Given :=
  { given with options := (name, value) :: given.options }

def isOption (argument : Text) : Bool :=
  match argument with
  | '-' :: _ :: _ => true
  | _ => false

def splitOption (argument : Text) : Text × Option Text :=
  match Text.breakAt? ['='] argument with
  | some (name, value) => (name, some value)
  | none => (argument, none)

def sort? (options : Options) : List Text → Option Given
  | [] => some ⟨[], []⟩
  | argument :: rest =>
      match argument with
      | ['-', '-'] => some ⟨rest, []⟩
      | '-' :: '-' :: long =>
          let (name, attached) := splitOption long
          match options.lookup name, attached with
          | none, _ => none
          | some .switch, none => (sort? options rest).map (·.add name [])
          | some .switch, some _ => none
          | some _, some value => (sort? options rest).map (·.add name value)
          | some _, none =>
              match rest with
              | value :: rest =>
                  if isOption value then none else (sort? options rest).map (·.add name value)
              | [] => none
      | _ =>
          if isOption argument then none
          else (sort? options rest).map fun given =>
            { given with operands := argument :: given.operands }

def Given.isSound (options : Options) (given : Given) : Bool :=
  options.all fun (name, kind) =>
    kind == .values || ((given.options.filter (·.1 = name)).length ≤ 1 : Bool)

def Given.value? (given : Given) (name : String) : Option Text :=
  given.options.lookup name.toList

def Given.values (given : Given) (name : String) : List Text :=
  (given.options.filter (·.1 = name.toList)).map Prod.snd

def read? (options : Options) (arguments : List Text) : Option Given :=
  (sort? options arguments).filter (·.isSound options)

def usualConfig : Text := "transclude.yaml".toList

def Given.config? (given : Given) : Option Text :=
  ((given.value? "config").getD usualConfig |> some).filter (!·.isEmpty)

def Given.file? (given : Given) : Option Text :=
  match given.operands with
  | [file] => if file.isEmpty then none else some file
  | _ => none

def readParam? (text : Text) : Option (Text × Text) :=
  (Text.breakAt? ['='] text).filter (!·.1.isEmpty)

def readNumber? (text : Text) : Option Nat :=
  let digits :=
    match text with
    | '+' :: digits => digits
    | _ => text
  if digits.isEmpty || !digits.all Char.isDigit then none
  else (some (Nat.ofDigitChars 10 digits 0)).filter (· < UInt16.size)

def usualEndpoint : Endpoint := ⟨.four [127, 0, 0, 1], 8080⟩

def renderOptions : Options := [
  ("config".toList, .value), ("channel".toList, .value), ("page".toList, .value),
  ("param".toList, .values)]

def inspectOptions : Options := [
  ("config".toList, .value), ("channel".toList, .value), ("json".toList, .switch)]

def serveOptions : Options := [
  ("config".toList, .value), ("bind".toList, .value), ("port".toList, .value)]

def readRender? (arguments : List Text) : Option Command := do
  let given ← read? renderOptions arguments
  let params ← (given.values "param").mapM readParam?
  return .render (← given.file?) (← given.config?) (given.value? "channel")
    ((given.value? "page").getD []) (Dict.ofList params)

def readInspect? (arguments : List Text) : Option Command := do
  let given ← read? inspectOptions arguments
  return .inspect (← given.file?) (← given.config?) (given.value? "channel")
    (given.value? "json").isSome

def readServe? (arguments : List Text) : Option Command := do
  let given ← read? serveOptions arguments
  if !given.operands.isEmpty then none
  let address ← (given.value? "bind").elim (some usualEndpoint.address) Address.read?
  let number ← (given.value? "port").elim (some usualEndpoint.number) readNumber?
  return .serve (← given.config?) ⟨address, number⟩

def ofArguments? (arguments : List Text) : Option Command :=
  match arguments with
  | [] => none
  | name :: rest =>
      match String.ofList name with
      | "render" => readRender? rest
      | "inspect" => readInspect? rest
      | "serve" => readServe? rest
      | "--version" | "-V" => some .version
      | _ => none

end Command

end Transclusion
