import Transclusion.Text.Basic

namespace Transclusion.Text

/-! Two classes of blank characters: the five of ASCII, and the white space of Unicode. -/

def isAsciiBlank (c : Char) : Bool :=
  c == ' ' || c == '\t' || c == '\n' || c == '\x0c' || c == '\x0d'

/-- The characters with the Unicode property White_Space. -/
def isBlank (c : Char) : Bool :=
  isAsciiBlank c || c == '\x0b' || c == '\u0085' || c == '\u00a0' || c == '\u1680' ||
    ('\u2000' ≤ c && c ≤ '\u200a') || c == '\u2028' || c == '\u2029' || c == '\u202f' ||
    c == '\u205f' || c == '\u3000'

theorem isBlank_of_isAsciiBlank {c : Char} (h : isAsciiBlank c = true) : isBlank c = true := by
  simp [isBlank, h]

def trimBlank (text : Text) : Text :=
  trim isBlank text

end Transclusion.Text
