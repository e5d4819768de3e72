namespace Transclusion

/-! Text is scanned one character at a time, so it is kept as a list of characters. -/

abbrev Text := List Char

namespace Text

def breakAt? (mark : Text) : Text → Option (Text × Text)
  | [] => (mark.isPrefixOf? []).map fun after => ([], after)
  | c :: rest =>
      match mark.isPrefixOf? (c :: rest) with
      | some after => some ([], after)
      | none => (breakAt? mark rest).map fun (before, after) => (c :: before, after)

def holds (mark : Text) (text : Text) : Bool :=
  (breakAt? mark text).isSome

def trimStart (p : Char → Bool) (text : Text) : Text :=
  text.dropWhile p

def trimEnd (p : Char → Bool) (text : Text) : Text :=
  (text.reverse.dropWhile p).reverse

def trim (p : Char → Bool) (text : Text) : Text :=
  trimEnd p (trimStart p text)

def dropLast? (c : Char) (text : Text) : Option Text :=
  if text.getLast? = some c then some text.dropLast else none

def split (separator : Char) (text : Text) : List Text :=
  text.splitOn separator

def join (separator : Text) (parts : List Text) : Text :=
  separator.intercalate parts

def byteSize (text : Text) : Nat :=
  text.foldr (fun c size => c.utf8Size + size) 0

@[simp] theorem byteSize_nil : byteSize [] = 0 := rfl

@[simp] theorem byteSize_cons (c : Char) (text : Text) :
    byteSize (c :: text) = c.utf8Size + byteSize text := rfl

@[simp] theorem byteSize_append (first second : Text) :
    byteSize (first ++ second) = byteSize first + byteSize second := by
  induction first with
  | nil => simp
  | cons c rest ih => simp [ih, Nat.add_assoc]

end Text

end Transclusion
