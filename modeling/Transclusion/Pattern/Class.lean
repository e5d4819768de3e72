import Transclusion.Pattern.Escape

namespace Transclusion.Pattern

/-! Sets of characters in brackets. -/

inductive SetOp where
  | inter
  | difference
  | symmetricDifference

def SetOp.apply : SetOp → CharSet → CharSet → CharSet
  | .inter => CharSet.inter
  | .difference => CharSet.difference
  | .symmetricDifference => CharSet.symmetricDifference

/-- What has been read of a set: the operands so far with the operator behind them, and the
members since. -/
structure OpenSet where
  ahead : Option (CharSet × SetOp)
  members : CharSet

namespace OpenSet

def empty : OpenSet := ⟨none, CharSet.none⟩

def add (set : OpenSet) (members : CharSet) : OpenSet :=
  { set with members := set.members.union members }

def total (mode : Mode) (set : OpenSet) : CharSet :=
  match set.ahead with
  | none => set.members
  | some (ahead, op) => op.apply (mode.closeCase ahead) (mode.closeCase set.members)

def operate (mode : Mode) (set : OpenSet) (op : SetOp) : OpenSet :=
  ⟨some (set.total mode, op), CharSet.none⟩

end OpenSet

/-- The character that a member in brackets stands for. Outside of Unicode it is one of ASCII. -/
def memberChar? (mode : Mode) : Escape → Option Char
  | .char c _ =>
      if mode.unicode || decide (c.toNat < 0x80) then some c else none
  | .set _ | .look _ => none

def memberSet? (mode : Mode) : Escape → Option CharSet
  | .set set => some set
  | item => (memberChar? mode item).map CharSet.single

def readMember? (mode : Mode) (text : Text) : Option (Escape × Text) :=
  match text with
  | '\\' :: rest => readEscape? mode rest
  | c :: rest => some (.char c false, rest)
  | [] => none

def readRange? (mode : Mode) (text : Text) : Option (CharSet × Text) := do
  let (item, rest) ← readMember? mode text
  let rest := mode.skip rest
  let alone := (memberSet? mode item).map (·, rest)
  match rest with
  | [] => none
  | '-' :: behind =>
      match mode.skip behind with
      | [] => none
      | ']' :: _ | '-' :: _ => alone
      | behind =>
          let (last, behind) ← readMember? mode behind
          let first ← memberChar? mode item
          let last ← memberChar? mode last
          if first ≤ last then some (CharSet.range first last, behind) else none
  | _ => alone

def readAsciiClass? (text : Text) : Option (CharSet × Text) := do
  let rest ← [':'].isPrefixOf? text
  let (negated, rest) :=
    match rest with
    | '^' :: rest => (true, rest)
    | _ => (false, rest)
  let name := rest.takeWhile (· != ':')
  let rest ← [':', ']'].isPrefixOf? (rest.dropWhile (· != ':'))
  let set ← asciiClass? name
  some (if negated then set.complement else set, rest)

/-- Reads what a set begins with: whether all but its members are meant, and the members that
stand for themselves in this place only. -/
def readOpening? (mode : Mode) (text : Text) : Option (Bool × CharSet × Text) :=
  let (negated, text) :=
    match mode.skip text with
    | '^' :: rest => (true, mode.skip rest)
    | text => (false, text)
  let rec hyphens (fuel : Nat) (found : Bool) (text : Text) : Bool × Text :=
    match fuel, text with
    | fuel + 1, '-' :: rest => hyphens fuel true (mode.skip rest)
    | _, _ => (found, text)
  match hyphens text.length false text with
  | (_, []) => none
  | (true, rest) => some (negated, CharSet.single '-', rest)
  | (false, ']' :: rest) => some (negated, CharSet.single ']', mode.skip rest)
  | (false, rest) => some (negated, CharSet.none, rest)

/-- Reads a set up to its closing bracket. Every step takes at least one character, of which there
are no more than `fuel`. -/
def readMembers? (mode : Mode) (fuel : Nat) (negated : Bool) (set : OpenSet) (text : Text) :
    Option (CharSet × Text) :=
  match fuel with
  | 0 => none
  | fuel + 1 =>
      match mode.skip text with
      | [] => none
      | ']' :: rest => some (mode.negate negated (set.total mode), rest)
      | '[' :: rest =>
          match readAsciiClass? rest with
          | some (members, rest) => readMembers? mode fuel negated (set.add members) rest
          | none => do
              let (inside, opening, rest) ← readOpening? mode rest
              let (members, rest) ←
                readMembers? mode fuel inside (OpenSet.empty.add opening) rest
              readMembers? mode fuel negated (set.add members) rest
      | '&' :: '&' :: rest => readMembers? mode fuel negated (set.operate mode .inter) rest
      | '-' :: '-' :: rest => readMembers? mode fuel negated (set.operate mode .difference) rest
      | '~' :: '~' :: rest =>
          readMembers? mode fuel negated (set.operate mode .symmetricDifference) rest
      | text => do
          let (members, rest) ← readRange? mode text
          readMembers? mode fuel negated (set.add members) rest

def readSet? (mode : Mode) (text : Text) : Option (CharSet × Text) := do
  let (negated, opening, rest) ← readOpening? mode text
  let (set, rest) ← readMembers? mode rest.length negated (OpenSet.empty.add opening) rest
  some (← mode.admit? set, rest)

end Transclusion.Pattern
