import Transclusion.Text.Blank
import Transclusion.Text.Fold
import Transclusion.Text.Percent
import Transclusion.Text.Word

namespace Transclusion.Pattern

/-! Sets of characters. -/

abbrev CharSet := Char → Bool

namespace CharSet

def none : CharSet := fun _ => false

def all : CharSet := fun _ => true

def ascii : CharSet := fun c => decide (c.toNat < 0x80)

def single (c : Char) : CharSet := fun d => d == c

def range (first last : Char) : CharSet := fun c => decide (first ≤ c) && decide (c ≤ last)

def union (first second : CharSet) : CharSet := fun c => first c || second c

def inter (first second : CharSet) : CharSet := fun c => first c && second c

def difference (first second : CharSet) : CharSet := fun c => first c && !second c

def symmetricDifference (first second : CharSet) : CharSet := fun c => first c != second c

def complement (set : CharSet) : CharSet := fun c => !set c

def folded (set : CharSet) : CharSet := fun c => (Text.variants c).any set

def asciiFolded (set : CharSet) : CharSet := fun c => set c || set c.toLower || set c.toUpper

def ofRanges (ranges : List (Nat × Nat)) : CharSet := Text.inRanges ranges

private def hexNumber (digits : Text) : Nat :=
  digits.foldl (fun number digit => 16 * number + (Text.hexValue? digit).getD 0) 0

def readRanges (text : Text) : List (Nat × Nat) :=
  (text.splitOnP fun c => c == ' ' || c == '\n').filterMap fun word =>
    match Text.split '-' word with
    | [first, last] => some (hexNumber first, hexNumber last)
    | [only] => if only.isEmpty then Option.none else some (hexNumber only, hexNumber only)
    | _ => Option.none

end CharSet

end Transclusion.Pattern
