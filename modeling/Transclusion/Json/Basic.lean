import Transclusion.Dict
import Transclusion.Number.Binary64

namespace Transclusion

inductive Number where
  | integer (value : Int)
  | real (value : Binary64)
  deriving DecidableEq

/-- Structured data. The members of an object are kept in the order of their names. -/
inductive Json where
  | null
  | bool (value : Bool)
  | number (value : Number)
  | string (value : Text)
  | array (items : List Json)
  | object (members : List (Text × Json))

abbrev Data := Dict Json

namespace Number

def isZero : Number → Bool
  | .integer value => value == 0
  | .real value => value.isZero

end Number

namespace Json

mutual

def decEq : (first second : Json) → Decidable (first = second)
  | .null, second =>
      match second with
      | .null => isTrue rfl
      | .bool _ | .number _ | .string _ | .array _ | .object _ => isFalse nofun
  | .bool value, second =>
      match second with
      | .bool other => decidable_of_iff (value = other) (by simp)
      | .null | .number _ | .string _ | .array _ | .object _ => isFalse nofun
  | .number value, second =>
      match second with
      | .number other => decidable_of_iff (value = other) (by simp)
      | .null | .bool _ | .string _ | .array _ | .object _ => isFalse nofun
  | .string value, second =>
      match second with
      | .string other => decidable_of_iff (value = other) (by simp)
      | .null | .bool _ | .number _ | .array _ | .object _ => isFalse nofun
  | .array items, second =>
      match second with
      | .array others =>
          have := decEqItems items others
          decidable_of_iff (items = others) (by simp)
      | .null | .bool _ | .number _ | .string _ | .object _ => isFalse nofun
  | .object members, second =>
      match second with
      | .object others =>
          have := decEqMembers members others
          decidable_of_iff (members = others) (by simp)
      | .null | .bool _ | .number _ | .string _ | .array _ => isFalse nofun

def decEqItems : (first second : List Json) → Decidable (first = second)
  | [], [] => isTrue rfl
  | [], _ :: _ | _ :: _, [] => isFalse nofun
  | item :: items, other :: others =>
      have := decEq item other
      have := decEqItems items others
      decidable_of_iff (item = other ∧ items = others) (by simp)

def decEqMembers : (first second : List (Text × Json)) → Decidable (first = second)
  | [], [] => isTrue rfl
  | [], _ :: _ | _ :: _, [] => isFalse nofun
  | (name, value) :: members, (other, present) :: others =>
      have := decEq value present
      have := decEqMembers members others
      decidable_of_iff ((name = other ∧ value = present) ∧ members = others) (by simp)

end

instance : DecidableEq Json := decEq

instance : DecidableEq Data := inferInstanceAs (DecidableEq (List (Text × Json)))

def member? (value : Json) (name : Text) : Option Json :=
  match value with
  | .object members => Dict.find? members name
  | _ => none

end Json

end Transclusion
