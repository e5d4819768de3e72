import Transclusion.Text.Basic

namespace Transclusion.Path

/-! Paths as text, with `/` between the names. -/

def isAbsolute (path : Text) : Bool :=
  path.head? == some '/'

/-- The path of `path` seen from `base`. An absolute path is the same from everywhere. -/
def join (base path : Text) : Text :=
  if isAbsolute path then path
  else if base.isEmpty || base.getLast? == some '/' then base ++ path
  else base ++ '/' :: path

/-- What a path comes to once doubled slashes and dots that go nowhere are left out. A dot that a
relative path begins with stays. -/
structure Parts where
  absolute : Bool
  names : List Text
  deriving DecidableEq

def isIdle (part : Text) : Bool :=
  part.isEmpty || part == ['.']

def parts (path : Text) : Parts where
  absolute := isAbsolute path
  names :=
    match Text.split '/' path with
    | ['.'] :: rest => ['.'] :: rest.filter (!isIdle ·)
    | pieces => pieces.filter (!isIdle ·)

def same (first second : Text) : Bool :=
  parts first == parts second

private def dropIdleEnd (pieces : List Text) : List Text :=
  match pieces with
  | [] => []
  | lead :: rest => lead :: (rest.reverse.dropWhile isIdle).reverse

def parent? (path : Text) : Option Text :=
  match dropIdleEnd (Text.split '/' path) with
  | [] => none
  | [lead] => if lead.isEmpty then none else some []
  | lead :: rest =>
      match dropIdleEnd (lead :: rest.dropLast) with
      | [[]] => some ['/']
      | pieces => some (Text.join ['/'] pieces)

end Transclusion.Path
