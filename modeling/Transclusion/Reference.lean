import Transclusion.File.Path

namespace Transclusion.Reference

/-! From the names in directives to paths below a directory. Whatever the name, such a path never
leads out of the directory. -/

def isNameChar (c : Char) : Bool :=
  c.isAlphanum || ['-', '_', '%', '@', '.', '/', '\\'].contains c

def clean (name : Text) : Text :=
  (name.filter isNameChar).map fun c => if c = '\\' then '/' else c

def placeholder : Text := ['%', 's']

def fill (value : Text) : Text → Text
  | '%' :: 's' :: rest => value ++ fill value rest
  | c :: rest => c :: fill value rest
  | [] => []

def hasPlaceholder (name : Text) : Bool :=
  Text.holds placeholder name

/-- The path that the parts between slashes make, without those that lead nowhere. A path with a
step upwards, or with no part left, is refused. -/
def tidy? (name : Text) : Option Text :=
  let parts := (Text.split '/' name).filter (!Path.isIdle ·)
  if parts.isEmpty || parts.contains ['.', '.'] then none
  else some (Text.join ['/'] parts)

/-- A path below a directory, and whether the channel went into it. -/
structure Relative where
  path : Text
  channelled : Bool
  deriving DecidableEq

def relative? (extension channel name : Text) : Option Relative :=
  let cleaned := clean name
  if cleaned.isEmpty then none
  else
    let file := cleaned ++ extension
    if hasPlaceholder file then (tidy? (fill (clean channel) file)).map (⟨·, true⟩)
    else (tidy? file).map (⟨·, false⟩)

theorem fill_of_not_hasPlaceholder {value name : Text} (h : hasPlaceholder name = false) :
    fill value name = name := by
  induction name with
  | nil => rfl
  | cons c rest ih =>
      have hrest : hasPlaceholder rest = false := by
        simp only [hasPlaceholder, Text.holds, Text.breakAt?] at h ⊢
        split at h
        · simp at h
        · simpa using h
      unfold fill
      split
      · next heq =>
          obtain ⟨rfl, rfl⟩ := List.cons.inj heq
          exact Bool.noConfusion h
      · next heq => obtain ⟨rfl, rfl⟩ := List.cons.inj heq; rw [ih hrest]
      · simp_all

end Transclusion.Reference
