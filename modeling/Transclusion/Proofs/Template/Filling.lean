import Mathlib.Data.List.Basic
import Transclusion.Template.Slots

namespace Transclusion.Template

/-! The source of a bound template is laid out in segments, and is filled one segment after the
other. -/

inductive Segment where
  | plain (text : Text)
  | reference (ref : SlotRef)

namespace Segment

def text : Segment → Text
  | .plain text => text
  | .reference ref => ref.text

def filled (autoescape : Bool) (slots : List Text) : Segment → Text
  | .plain text => text
  | .reference ref => ref.filled autoescape slots

def index? : Segment → Option Nat
  | .plain _ => none
  | .reference ref => some ref.index

@[simp] theorem text_plain (text : Text) : (plain text).text = text := rfl

@[simp] theorem text_reference (ref : SlotRef) : (reference ref).text = ref.text := rfl

@[simp] theorem filled_plain (autoescape : Bool) (slots : List Text) (text : Text) :
    (plain text).filled autoescape slots = text := rfl

@[simp] theorem filled_reference (autoescape : Bool) (slots : List Text) (ref : SlotRef) :
    (reference ref).filled autoescape slots = ref.filled autoescape slots := rfl

end Segment

/-- Segments make up the source of a bound template: text without an opening brace, and one
reference to each slot in the order of the slots. -/
structure Bound.LaidOut (bound : Bound) (segments : List Segment) : Prop where
  source : bound.source = segments.flatMap Segment.text
  plain : ∀ text, .plain text ∈ segments → '{' ∉ text
  numbered : segments.filterMap Segment.index? = List.range bound.slots.length

namespace SlotRef

private theorem isPrefixOf?_append (front rest : Text) :
    front.isPrefixOf? (front ++ rest) = some rest :=
  List.isPrefixOf?_eq_some_iff_append_eq.mpr rfl

private theorem isDigit_of_mem_digits {index : Nat} {c : Char}
    (hmem : c ∈ Nat.toDigits 10 index) : c.isDigit = true :=
  Nat.isDigit_of_mem_toDigits (by decide) (by decide) hmem

private theorem takeWhile_digits (index : Nat) {behind : Text}
    (hbehind : behind.takeWhile Char.isDigit = []) :
    (Nat.toDigits 10 index ++ behind).takeWhile Char.isDigit = Nat.toDigits 10 index := by
  rw [List.takeWhile_append_of_pos fun c hmem => isDigit_of_mem_digits hmem, hbehind,
    List.append_nil]

private theorem dropWhile_digits (index : Nat) {behind : Text}
    (hbehind : behind.dropWhile Char.isDigit = behind) :
    (Nat.toDigits 10 index ++ behind).dropWhile Char.isDigit = behind := by
  rw [List.dropWhile_append_of_pos fun c hmem => isDigit_of_mem_digits hmem, hbehind]

private theorem isEmpty_digits (index : Nat) : (Nat.toDigits 10 index).isEmpty = false := by
  rw [List.isEmpty_eq_false_iff]
  exact Nat.toDigits_ne_nil

theorem read?_text_append (ref : SlotRef) (rest : Text) :
    read? (ref.text ++ rest) = some (ref, rest) := by
  obtain ⟨index, escaped⟩ := ref
  cases escaped with
  | false =>
      have htext : SlotRef.text ⟨index, false⟩ ++ rest =
          slotOpening ++ (Nat.toDigits 10 index ++ (safeMark ++ (slotClosing ++ rest))) := by
        simp only [text, Bool.false_eq_true, ↓reduceIte, List.append_assoc]
      have htake : (safeMark ++ (slotClosing ++ rest)).takeWhile Char.isDigit = [] := rfl
      have hdrop : (safeMark ++ (slotClosing ++ rest)).dropWhile Char.isDigit =
          safeMark ++ (slotClosing ++ rest) := rfl
      simp only [htext, read?, isPrefixOf?_append, Option.bind_eq_bind, Option.bind_some,
        takeWhile_digits index htake, dropWhile_digits index hdrop, isEmpty_digits,
        Bool.false_eq_true, ↓reduceIte, Nat.ofDigitChars_ten_toDigits, Option.map_some]
  | true =>
      have htext : SlotRef.text ⟨index, true⟩ ++ rest =
          slotOpening ++ (Nat.toDigits 10 index ++ (slotClosing ++ rest)) := by
        simp only [text, ↓reduceIte, List.append_assoc, List.nil_append]
      have htake : (slotClosing ++ rest).takeWhile Char.isDigit = [] := rfl
      have hdrop : (slotClosing ++ rest).dropWhile Char.isDigit = slotClosing ++ rest := rfl
      have hmark : safeMark.isPrefixOf? (slotClosing ++ rest) = none := rfl
      simp only [htext, read?, isPrefixOf?_append, Option.bind_eq_bind, Option.bind_some,
        takeWhile_digits index htake, dropWhile_digits index hdrop, isEmpty_digits, hmark,
        Bool.false_eq_true, ↓reduceIte, Nat.ofDigitChars_ten_toDigits, Option.map_some]

theorem read?_eq_none_of_ne {c : Char} (hne : c ≠ '{') (rest : Text) :
    read? (c :: rest) = none := by
  have hopening : slotOpening.isPrefixOf? (c :: rest) = none := by
    have hbeq : ('{' == c) = false := by
      rw [beq_eq_false_iff_ne]
      exact hne.symm
    simp only [slotOpening, List.isPrefixOf?, hbeq, Bool.false_eq_true, ↓reduceIte]
  rw [read?, hopening]
  rfl

theorem length_text_pos (ref : SlotRef) : 0 < ref.text.length := by
  simp only [text, slotOpening, List.length_append, List.length_cons]
  omega

end SlotRef

section Fill

variable (autoescape : Bool) (slots : List Text)

theorem fillFrom_drop (skip : Nat) (source : Text) :
    fillFrom autoescape slots skip source = fillFrom autoescape slots 0 (source.drop skip) := by
  induction source generalizing skip with
  | nil => simp [fillFrom]
  | cons c rest ih =>
      cases skip with
      | zero => rfl
      | succ skip => exact ih skip

theorem fillFrom_ref (ref : SlotRef) (rest : Text) :
    fillFrom autoescape slots 0 (ref.text ++ rest) =
      ref.filled autoescape slots ++ fillFrom autoescape slots 0 rest := by
  have hpos := ref.length_text_pos
  have hread := ref.read?_text_append rest
  rcases htext : ref.text with _ | ⟨c, behind⟩
  · rw [htext] at hpos
    cases hpos
  · rw [htext, List.cons_append] at hread
    rw [List.cons_append, fillFrom, hread]
    simp only [htext, List.length_cons, Nat.add_one_sub_one]
    rw [fillFrom_drop, List.drop_left]

theorem fillFrom_plain {text : Text} (htext : '{' ∉ text) (rest : Text) :
    fillFrom autoescape slots 0 (text ++ rest) = text ++ fillFrom autoescape slots 0 rest := by
  induction text with
  | nil => rfl
  | cons c behind ih =>
      have hne : c ≠ '{' := fun heq => htext (heq ▸ List.mem_cons_self)
      rw [List.cons_append, fillFrom, SlotRef.read?_eq_none_of_ne hne]
      rw [ih fun hmem => htext (List.mem_cons_of_mem _ hmem)]
      rfl

theorem fillFrom_segments {segments : List Segment}
    (hplain : ∀ text, .plain text ∈ segments → '{' ∉ text) :
    fillFrom autoescape slots 0 (segments.flatMap Segment.text) =
      segments.flatMap (Segment.filled autoescape slots) := by
  induction segments with
  | nil => rfl
  | cons segment segments ih =>
      have hbehind := ih fun text hmem => hplain text (List.mem_cons_of_mem _ hmem)
      rw [List.flatMap_cons, List.flatMap_cons]
      cases segment with
      | plain text =>
          rw [Segment.text_plain, fillFrom_plain autoescape slots (hplain text List.mem_cons_self),
            hbehind, Segment.filled_plain]
      | reference ref =>
          rw [Segment.text_reference, fillFrom_ref, hbehind, Segment.filled_reference]

theorem Bound.LaidOut.fill_eq {bound : Bound} {segments : List Segment}
    (hlaid : bound.LaidOut segments) :
    bound.fill autoescape = segments.flatMap (Segment.filled autoescape bound.slots) := by
  rw [Bound.fill, hlaid.source, fillFrom_segments autoescape bound.slots hlaid.plain]

end Fill

def Piece.filled (autoescape : Bool) : Piece → Text
  | .plain text => text
  | .slot text escaped => if autoescape && escaped then escape text else text

def segments (index : Nat) : List Piece → List Segment
  | [] => []
  | .plain text :: rest => .plain text :: segments index rest
  | .slot _ escaped :: rest => .reference ⟨index, escaped⟩ :: segments (index + 1) rest

variable (index : Nat) (pieces : List Piece)

theorem source_ofPieces :
    (Bound.ofPieces index pieces).source = (segments index pieces).flatMap Segment.text := by
  induction pieces generalizing index with
  | nil => rfl
  | cons piece rest ih =>
      cases piece with
      | plain text => simp only [Bound.ofPieces, segments, List.flatMap_cons, ih, Segment.text_plain]
      | slot text escaped =>
          simp only [Bound.ofPieces, segments, List.flatMap_cons, ih, Segment.text_reference]

theorem numbered_segments :
    (segments index pieces).filterMap Segment.index? =
      List.range' index (Bound.ofPieces index pieces).slots.length := by
  induction pieces generalizing index with
  | nil => rfl
  | cons piece rest ih =>
      cases piece with
      | plain text => exact ih index
      | slot text escaped =>
          simp only [segments, List.filterMap_cons, Segment.index?, ih, Bound.ofPieces,
            List.length_cons, List.range'_succ]

theorem mem_of_plain_mem_segments {text : Text}
    (hmem : .plain text ∈ segments index pieces) : .plain text ∈ pieces := by
  induction pieces generalizing index with
  | nil => cases hmem
  | cons piece rest ih =>
      cases piece with
      | plain other =>
          rcases List.mem_cons.mp hmem with heq | hmem
          · cases heq
            exact List.mem_cons_self
          · exact List.mem_cons_of_mem _ (ih index hmem)
      | slot other escaped =>
          rcases List.mem_cons.mp hmem with heq | hmem
          · cases heq
          · exact List.mem_cons_of_mem _ (ih (index + 1) hmem)

theorem filled_segments (autoescape : Bool) {front : List Text} (hfront : front.length = index) :
    (segments index pieces).flatMap
        (Segment.filled autoescape (front ++ (Bound.ofPieces index pieces).slots)) =
      pieces.flatMap (Piece.filled autoescape) := by
  induction pieces generalizing index front with
  | nil => rfl
  | cons piece rest ih =>
      cases piece with
      | plain text =>
          simp only [segments, Bound.ofPieces, List.flatMap_cons, ih index hfront,
            Segment.filled_plain, Piece.filled]
      | slot text escaped =>
          have hbehind := @ih (index + 1) (front ++ [text]) (by simp [hfront])
          rw [List.append_assoc, List.singleton_append] at hbehind
          have hslot : (front ++ text :: (Bound.ofPieces (index + 1) rest).slots)[index]? =
              some text := by
            rw [← hfront, List.getElem?_append_right (Nat.le_refl _), Nat.sub_self]
            rfl
          simp only [segments, Bound.ofPieces, List.flatMap_cons, hbehind, Segment.filled_reference,
            SlotRef.filled, hslot, Option.getD_some, Piece.filled]

theorem laidOut_ofPieces {pieces : List Piece}
    (hplain : ∀ text, .plain text ∈ pieces → '{' ∉ text) :
    (Bound.ofPieces 0 pieces).LaidOut (segments 0 pieces) where
  source := source_ofPieces 0 pieces
  plain text hmem := hplain text (mem_of_plain_mem_segments 0 pieces hmem)
  numbered := by rw [numbered_segments, List.range_eq_range']

end Transclusion.Template
