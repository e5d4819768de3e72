import Transclusion.Text.Blank

namespace Transclusion

open Text

/-! What a directive asks for. Between its braces it names a template, after a bar the data that
goes with it, and after more bars any flags. -/

structure Directive where
  /-- The text under which the outcome is kept: all parts but the flags. -/
  key : Text
  templateRef : Text
  dataRef : Option Text
  flags : List Text
  deriving DecidableEq

namespace Directive

def strip (text : Text) : Text :=
  let compact := text.filter (!isBlank ·)
  let inner :=
    match compact with
    | '{' :: _ =>
        match compact.dropWhile (· == '{') with
        | '>' :: inner => inner
        | inner => inner
    | _ => compact
  trimEnd (· == '}') inner

def splitFlags (known : List Text) (parts : List Text) : List Text × List Text :=
  ((parts.reverse.dropWhile known.contains).reverse,
    (parts.reverse.takeWhile known.contains).reverse)

/-- What a directive asks for, unless it names no template. The first part is never a flag. -/
def parse? (known : List Text) (text : Text) : Option Directive :=
  match split '|' (strip text) with
  | [] => none
  | templateRef :: parts =>
      if templateRef.isEmpty then none
      else
        let (kept, flags) := splitFlags known parts
        some {
          key := join ['|'] (templateRef :: kept)
          templateRef
          dataRef := kept.head?.filter (!·.isEmpty)
          flags }

def isFlagged (directive : Directive) : Bool :=
  !directive.flags.isEmpty

theorem splitFlags_append (known parts : List Text) :
    (splitFlags known parts).1 ++ (splitFlags known parts).2 = parts := by
  simp only [splitFlags, ← List.reverse_append, List.takeWhile_append_dropWhile,
    List.reverse_reverse]

end Directive

end Transclusion
