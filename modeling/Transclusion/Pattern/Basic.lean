import Transclusion.Pattern.CharSet

namespace Transclusion

/-! Patterns of text, and the search for them. -/

namespace Pattern

inductive Look where
  | start
  | finish
  | lineStart
  | lineFinish
  /-- As the two above, where a carriage return ends a line as well. -/
  | anyLineStart
  | anyLineFinish
  | boundary (isWord : CharSet)
  | noBoundary (isWord : CharSet)
  | wordStart (isWord : CharSet)
  | wordFinish (isWord : CharSet)
  | wordStartHalf (isWord : CharSet)
  | wordFinishHalf (isWord : CharSet)

def Look.holds (look : Look) (before after : Option Char) : Bool :=
  match look with
  | .start => before.isNone
  | .finish => after.isNone
  | .lineStart => before.all (· == '\n')
  | .lineFinish => after.all (· == '\n')
  | .anyLineStart =>
      before.isNone || before == some '\n' || (before == some '\x0d' && after != some '\n')
  | .anyLineFinish =>
      after.isNone || after == some '\x0d' || (after == some '\n' && before != some '\x0d')
  | .boundary isWord => before.any isWord != after.any isWord
  | .noBoundary isWord => before.any isWord == after.any isWord
  | .wordStart isWord => !before.any isWord && after.any isWord
  | .wordFinish isWord => before.any isWord && !after.any isWord
  | .wordStartHalf isWord => !before.any isWord
  | .wordFinishHalf isWord => !after.any isWord

end Pattern

inductive Pattern where
  | empty
  | look (asked : Pattern.Look)
  | char (set : Pattern.CharSet)
  | seq (first second : Pattern)
  | alt (first second : Pattern)
  | group (name : Option Text) (inner : Pattern)
  | repeated (inner : Pattern) (least : Nat) (most : Option Nat)

namespace Pattern

abbrev Places := List Nat

def Places.union : Places → Places → Places
  | [], second => second
  | first, [] => first
  | place :: first, other :: second =>
      if place < other then place :: Places.union first (other :: second)
      else if other < place then other :: Places.union (place :: first) second
      else place :: Places.union first second
termination_by first second => first.length + second.length

def steps (step : Places → Places) : Nat → Places → Places
  | 0, places => places
  | count + 1, places =>
      let next := step places
      if next = places then places else steps step count next

def charBefore? (subject : Array Char) (place : Nat) : Option Char :=
  if place = 0 then none else subject[place - 1]?

/-- The places at which a match can end that begins at one of the given places. -/
def reach (subject : Array Char) : Pattern → Places → Places
  | .empty, places => places
  | .look asked, places =>
      places.filter fun place => asked.holds (charBefore? subject place) subject[place]?
  | .char set, places => (places.filter fun place => subject[place]?.any set).map (· + 1)
  | .seq first second, places => reach subject second (reach subject first places)
  | .alt first second, places => (reach subject first places).union (reach subject second places)
  | .group _ inner, places => reach subject inner places
  | .repeated inner least most, places =>
      let onward := most.elim (subject.size + 1) (· - least)
      steps (fun places => places.union (reach subject inner places)) onward
        (steps (reach subject inner) least places)

def occursIn (pattern : Pattern) (text : Text) : Bool :=
  let subject := text.toArray
  !(reach subject pattern (List.range (subject.size + 1))).isEmpty

def names : Pattern → List Text
  | .seq first second | .alt first second => names first ++ names second
  | .group name inner => name.toList ++ names inner
  | .repeated inner _ _ => names inner
  | .empty | .look _ | .char _ => []

/-- A measure of how large a pattern is with its repetitions written out. -/
def size : Pattern → Nat
  | .empty | .look _ | .char _ => 1
  | .seq first second | .alt first second => size first + size second
  | .group _ inner => size inner + 2
  | .repeated inner least most => size inner * max 1 (most.getD (least + 1)) + 1

end Pattern

end Transclusion
