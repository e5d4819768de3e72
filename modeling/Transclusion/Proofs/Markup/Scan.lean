import Transclusion.Proofs.Markup.Filling
import Transclusion.Proofs.Text.Bytes

namespace Transclusion.Markup

open Directive

/-! The spans of a text are settled by the grammar of directives alone: they are its words, from the
first on, each with every brace that it can have. -/

variable {text before rest after : Text} {found others : List Span} {first second : Span}
  {word : Word} {start position : Nat} {c : Char}

/-- The bytes of some word of the grammar stand in the text from a byte on. -/
def Begins (text : Text) (position : Nat) : Prop :=
  ∃ word : Word, word.Valid ∧ Text.toUtf8 word.text <+: (Text.toUtf8 text).drop position

/-- A span marks a word of the grammar, between characters of the text, and leaves no brace behind
that could close the word. -/
inductive Bears (text : Text) : Span → Prop where
  | word {before after : Text} {word : Word} (parts : text = before ++ (word.text ++ after))
      (valid : word.Valid) (full : word.Full after) :
      Bears text ⟨word.text, Text.byteSize before, Text.byteSize (before ++ word.text)⟩

/-- Spans that lie one behind the other, from the byte `start` on, and leave no word out. -/
structure Marked (start : Nat) (text : Text) (found : List Span) : Prop where
  ordered : found.Pairwise fun first second =>
    first.start < second.start ∧ first.stop ≤ second.start
  ahead : ∀ span ∈ found, start ≤ span.start
  words : ∀ span ∈ found, Bears text span
  complete : ∀ position, start ≤ position → Begins text position →
    ∃ span ∈ found, span.start ≤ position ∧ position < span.stop

theorem begins_iff :
    Begins text position ↔
      ∃ before rest found, text = before ++ rest ∧ Text.byteSize before = position ∧
        Word.read? rest = some found := by
  constructor
  · rintro ⟨word, hvalid, hword⟩
    obtain ⟨before, after, htext, hbefore⟩ := Text.exists_of_prefix_drop word.text_ne_nil hword
    obtain ⟨found, hread⟩ := Word.exists_read?_text_append hvalid after
    exact ⟨before, word.text ++ after, found, htext, hbefore, hread⟩
  · rintro ⟨before, rest, ⟨word, after⟩, rfl, hbefore, hread⟩
    obtain ⟨hvalid, rfl, -⟩ := Word.read?_eq_some_iff.mp hread
    refine ⟨word, hvalid, (Text.toUtf8_prefix_drop_iff word.text_ne_nil).mpr ?_⟩
    exact ⟨before, after, rfl, hbefore⟩

namespace Bears

theorem start_lt_stop (hbears : Bears text first) : first.start < first.stop := by
  cases hbears with
  | @word before after word parts valid full =>
      have hpos := Text.byteSize_pos word.text_ne_nil
      simp only [Text.byteSize_append]
      omega

theorem begins (hbears : Bears text first) : Begins text first.start := by
  cases hbears with
  | @word before after word parts valid full =>
      have hread := Word.read?_eq_some_iff.mpr ⟨valid, rfl, full⟩
      exact begins_iff.mpr ⟨before, word.text ++ after, _, parts, rfl, hread⟩

theorem eq_of_start_eq (hfirst : Bears text first) (hsecond : Bears text second)
    (hstart : first.start = second.start) : first = second := by
  cases hfirst with
  | @word before after word parts valid full =>
      cases hsecond with
      | @word before' after' word' parts' valid' full' =>
          have hbefore := eq_of_append_eq_of_byteSize_eq (parts.symm.trans parts') hstart
          subst hbefore
          have hrest := List.append_cancel_left (parts.symm.trans parts')
          have hread := Word.read?_eq_some_iff.mpr ⟨valid, rfl, full⟩
          have hread' := Word.read?_eq_some_iff.mpr ⟨valid', hrest, full'⟩
          cases hread.symm.trans hread'
          rfl

end Bears

namespace Marked

theorem start_le (hmarked : Marked start text (first :: found)) (hstart : start ≤ position)
    (hbegins : Begins text position) : first.start ≤ position := by
  obtain ⟨span, hmem, hbelow, -⟩ := hmarked.complete position hstart hbegins
  rcases List.mem_cons.mp hmem with rfl | hmem
  · exact hbelow
  · have hfirst := (List.pairwise_cons.mp hmarked.ordered).1 span hmem
    omega

theorem tail (hmarked : Marked start text (first :: found)) : Marked first.stop text found where
  ordered := (List.pairwise_cons.mp hmarked.ordered).2
  ahead span hmem := ((List.pairwise_cons.mp hmarked.ordered).1 span hmem).2
  words span hmem := hmarked.words span (List.mem_cons_of_mem _ hmem)
  complete position hstop hbegins := by
    have hfirst := (hmarked.words first List.mem_cons_self).start_lt_stop
    have hahead := hmarked.ahead first List.mem_cons_self
    obtain ⟨span, hmem, hwithin⟩ := hmarked.complete position (by omega) hbegins
    rcases List.mem_cons.mp hmem with rfl | hmem
    · omega
    · exact ⟨span, hmem, hwithin⟩

theorem unique (hfound : Marked start text found) (hothers : Marked start text others) :
    found = others := by
  induction found generalizing start others with
  | nil =>
      cases others with
      | nil => rfl
      | cons second others =>
          have hbears := hothers.words second List.mem_cons_self
          have hahead := hothers.ahead second List.mem_cons_self
          obtain ⟨span, hmem, -⟩ := hfound.complete second.start hahead hbears.begins
          exact absurd hmem List.not_mem_nil
  | cons first found ih =>
      have hfirst := hfound.words first List.mem_cons_self
      have hahead := hfound.ahead first List.mem_cons_self
      cases others with
      | nil =>
          obtain ⟨span, hmem, -⟩ := hothers.complete first.start hahead hfirst.begins
          exact absurd hmem List.not_mem_nil
      | cons second others =>
          have hsecond := hothers.words second List.mem_cons_self
          have hahead' := hothers.ahead second List.mem_cons_self
          have hstart : first.start = second.start :=
            Nat.le_antisymm (hfound.start_le hahead' hsecond.begins)
              (hothers.start_le hahead hfirst.begins)
          cases hfirst.eq_of_start_eq hsecond hstart
          rw [ih hfound.tail hothers.tail]

end Marked

theorem eq_of_append_eq_of_byteSize_lt {first second behind behind' : Text}
    (happend : first ++ behind = second ++ c :: behind')
    (hle : Text.byteSize second ≤ Text.byteSize first)
    (hlt : Text.byteSize first < Text.byteSize second + c.utf8Size) :
    behind = c :: behind' := by
  rcases List.append_eq_append_iff.mp happend with ⟨between, rfl, rfl⟩ | ⟨between, rfl, hbehind⟩
  · cases between with
    | nil => rfl
    | cons d between =>
        have := Char.utf8Size_pos d
        simp only [Text.byteSize_append, Text.byteSize_cons] at hle
        omega
  · cases between with
    | nil => exact hbehind.symm
    | cons d between =>
        obtain ⟨rfl, -⟩ := List.cons.inj hbehind
        simp only [Text.byteSize_append, Text.byteSize_cons] at hlt
        omega

theorem Marked.of_char (hread : Word.read? (c :: rest) = none)
    (hmarked : Marked (Text.byteSize (before ++ [c])) (before ++ c :: rest) found) :
    Marked (Text.byteSize before) (before ++ c :: rest) found where
  ordered := hmarked.ordered
  ahead span hmem := by
    have hahead := hmarked.ahead span hmem
    rw [Text.byteSize_append] at hahead
    omega
  words := hmarked.words
  complete position hstart hbegins := by
    refine hmarked.complete position ?_ hbegins
    obtain ⟨before', rest', found', hparts, rfl, hread'⟩ := begins_iff.mp hbegins
    by_contra hwithin
    rw [Text.byteSize_append, Text.byteSize_cons, Text.byteSize_nil, Nat.add_zero,
      Nat.not_le] at hwithin
    rw [eq_of_append_eq_of_byteSize_lt hparts.symm hstart hwithin, hread] at hread'
    cases hread'

theorem Marked.of_word (hread : Word.read? rest = some (word, after))
    (hmarked : Marked (Text.byteSize (before ++ word.text)) (before ++ rest) found) :
    Marked (Text.byteSize before) (before ++ rest)
      (⟨word.text, Text.byteSize before, Text.byteSize (before ++ word.text)⟩ :: found) := by
  obtain ⟨hvalid, rfl, hfull⟩ := Word.read?_eq_some_iff.mp hread
  have hbears : Bears (before ++ (word.text ++ after))
      ⟨word.text, Text.byteSize before, Text.byteSize (before ++ word.text)⟩ :=
    .word rfl hvalid hfull
  have hlt := hbears.start_lt_stop
  refine ⟨List.pairwise_cons.mpr ⟨fun span hmem => ?_, hmarked.ordered⟩, fun span hmem => ?_,
    fun span hmem => ?_, fun position hstart hbegins => ?_⟩
  · have hahead := hmarked.ahead span hmem
    exact ⟨Nat.lt_of_lt_of_le hlt hahead, hahead⟩
  · rcases List.mem_cons.mp hmem with rfl | hmem
    · exact Nat.le_refl _
    · exact Nat.le_trans (Nat.le_of_lt hlt) (hmarked.ahead span hmem)
  · rcases List.mem_cons.mp hmem with rfl | hmem
    · exact hbears
    · exact hmarked.words span hmem
  · by_cases hwithin : position < Text.byteSize (before ++ word.text)
    · exact ⟨_, List.mem_cons_self, hstart, hwithin⟩
    · obtain ⟨span, hmem, hspan⟩ :=
        hmarked.complete position (Nat.not_lt.mp hwithin) hbegins
      exact ⟨span, List.mem_cons_of_mem _ hmem, hspan⟩

theorem marked_spansFrom (before rest : Text) :
    Marked (Text.byteSize before) (before ++ rest)
      (spansFrom (Text.byteSize before) (tokens rest)) := by
  induction rest using scan_induction generalizing before with
  | nil =>
      refine ⟨List.Pairwise.nil, fun _ hmem => absurd hmem List.not_mem_nil,
        fun _ hmem => absurd hmem List.not_mem_nil, fun position hstart hbegins => ?_⟩
      obtain ⟨word, -, hword⟩ := hbegins
      rw [List.drop_of_length_le (by simpa using hstart), ← Text.toUtf8_nil] at hword
      exact absurd (List.prefix_nil.mp (Text.isPrefix_of_toUtf8 hword)) word.text_ne_nil
  | char c rest hread ih =>
      rw [tokens_of_read?_none hread]
      have hbehind := ih (before ++ [c])
      rw [List.append_assoc, List.singleton_append] at hbehind
      apply Marked.of_char hread
      simpa [spansFrom] using hbehind
  | word text word after hread ih =>
      rw [tokens_of_read? hread]
      have hbehind := ih (before ++ word.text)
      rw [List.append_assoc, ← Word.read?_text hread] at hbehind
      have hmarked := Marked.of_word hread hbehind
      simpa [spansFrom] using hmarked

/-- The spans of a text are the only ones that lie one behind the other, mark words of the grammar
with every brace that closes them, and have each word begin within one of them. -/
theorem marked_iff_eq_spans (text : Text) (found : List Span) :
    Marked 0 text found ↔ found = spans text := by
  have hspans : Marked 0 text (spans text) := marked_spansFrom [] text
  constructor
  · intro hmarked
    exact hmarked.unique hspans
  · rintro rfl
    exact hspans

/-- Of four opening braces the first belongs to no directive. -/
example : spans "é{{{{> a}}}}".toList = [⟨"{{{> a}}}".toList, 3, 12⟩] := by decide

end Transclusion.Markup
