import Transclusion.Pattern.Property

namespace Transclusion.Pattern

/-! The modes of a pattern, which flags between `(?` and `)` turn on and off. -/

structure Mode where
  anyCase : Bool
  lines : Bool
  dotAll : Bool
  anyLineEnd : Bool
  unicode : Bool
  spaced : Bool

namespace Mode

def plain : Mode where
  anyCase := false
  lines := false
  dotAll := false
  anyLineEnd := false
  unicode := true
  spaced := false

def turn (mode : Mode) (flag : Char) (on : Bool) : Mode :=
  match flag with
  | 'i' => { mode with anyCase := on }
  | 'm' => { mode with lines := on }
  | 's' => { mode with dotAll := on }
  | 'R' => { mode with anyLineEnd := on }
  | 'u' => { mode with unicode := on }
  | 'x' => { mode with spaced := on }
  | _ => mode

def isFlag (c : Char) : Bool :=
  ['i', 'm', 's', 'U', 'u', 'R', 'x'].contains c

/-- Reads flags up to the colon or parenthesis behind them. No flag comes twice, and the hyphen
ahead of those to turn off is not the last. -/
def readFlags? (text : Text) : Option (Text × Text) :=
  let isEnd := fun c => c == ':' || c == ')'
  let flags := text.takeWhile (!isEnd ·)
  let rest := text.dropWhile (!isEnd ·)
  if rest.isEmpty || !flags.all (fun c => isFlag c || c == '-') || !decide flags.Nodup ||
      flags.getLast? == some '-' then none
  else some (flags, rest)

def turnAll (mode : Mode) (flags : Text) : Mode :=
  (flags.foldl (fun (mode, on) flag =>
    if flag = '-' then (mode, false) else (turn mode flag on, on)) (mode, true)).1

def dropComments (inComment : Bool) : Text → Text
  | [] => []
  | c :: rest =>
      if inComment then dropComments (c != '\n') rest
      else if c = '#' then dropComments true rest
      else if Text.isBlank c then dropComments false rest
      else c :: rest

def skip (mode : Mode) (text : Text) : Text :=
  if mode.spaced then dropComments false text else text

def isWord (mode : Mode) : CharSet :=
  if mode.unicode then Text.isWord else fun c => c.isAlphanum || c == '_'

def isDigit (mode : Mode) : CharSet :=
  if mode.unicode then decimalDigits else Char.isDigit

def isSpace (mode : Mode) : CharSet :=
  if mode.unicode then Text.isBlank else fun c => Text.isAsciiBlank c || c == '\x0b'

def closeCase (mode : Mode) (set : CharSet) : CharSet :=
  if !mode.anyCase then set
  else if mode.unicode then set.folded
  else set.asciiFolded

/-- Outside of Unicode a set may hold characters of ASCII only. -/
def admit? (mode : Mode) (set : CharSet) : Option CharSet :=
  if mode.unicode then some set
  else if (List.range 0x80).any fun code => set (Char.ofNat (0x80 + code)) then none
  else some (set.inter CharSet.ascii)

def negate (mode : Mode) (negated : Bool) (set : CharSet) : CharSet :=
  let set := mode.closeCase set
  if negated then set.complement else set

end Mode

end Transclusion.Pattern
