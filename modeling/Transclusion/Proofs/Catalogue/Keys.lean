import Transclusion.Proofs.Catalogue.Gathered
import Transclusion.Proofs.Markup.Word

namespace Transclusion.Catalogue

/-! The key under which the outcome of a directive is kept. It is settled by what the directive
says between its braces, and settles in turn what the directive asks for. -/

variable {flags : List Text} {text other bare page : Text} {directive : Directive}

/-- A text that is a directive on some page, and what it says between `>` and the closing braces
without the blanks. -/
inductive Says : Text → Text → Prop where
  | word {word : Directive.Word} {page : Text} (valid : word.Valid)
      (found : word.text ∈ Markup.directives page) :
      Says word.text (word.body.filter (!Text.isBlank ·))

theorem Says.strip_eq (hspelt : Says text bare) : Directive.strip text = bare := by
  cases hspelt with
  | word valid found => exact Directive.Word.strip_text valid

/-- Both texts ask for the same, or neither names a template. -/
def Alike (flags : List Text) (text other : Text) : Prop :=
  (∃ directive, parse flags text = .ok directive ∧ parse flags other = .ok directive) ∨
    (parse flags text = .error (.malformed text) ∧
      parse flags other = .error (.malformed other))

theorem alike_of_strip_eq (hstrip : Directive.strip text = Directive.strip other) :
    Alike flags text other := by
  have hparse : Directive.parse? flags text = Directive.parse? flags other := by
    simp only [Directive.parse?, hstrip]
  cases hother : Directive.parse? flags other with
  | none =>
      right
      rw [hother] at hparse
      exact ⟨parse_eq_error_iff.mpr ⟨hparse, rfl⟩, parse_eq_error_iff.mpr ⟨hother, rfl⟩⟩
  | some directive =>
      left
      rw [hother] at hparse
      exact ⟨directive, parse_eq_ok_iff.mpr hparse, parse_eq_ok_iff.mpr hother⟩

/-- The key of a directive that says `bare`. Its parts come first there, and the flags behind
them. -/
structure Keyed (flags : List Text) (bare : Text) (directive : Directive) : Prop where
  parts : Text.split '|' directive.key ++ directive.flags = Text.split '|' bare
  known : ∀ flag ∈ directive.flags, flag ∈ flags
  alone : ∀ kept last, Text.split '|' directive.key = kept ++ [last] → last ∈ flags → kept = []
  refs : ∃ kept, Text.split '|' directive.key = directive.templateRef :: kept ∧
    directive.dataRef = kept.head?.filter (!·.isEmpty)
  reread : parse flags directive.key = .ok { directive with flags := [] }
  shared : ∀ {text bare : Text} {other : Directive}, Says text bare →
    parse flags text = .ok other → other.key = directive.key →
      other.templateRef = directive.templateRef ∧ other.dataRef = directive.dataRef

theorem keyed_of_parse (hspelt : Says text bare) (hparse : parse flags text = .ok directive) :
    Keyed flags bare directive := by
  rw [parse_eq_ok_iff] at hparse
  refine ⟨?_, fun flag hflag => ?_, fun kept last hsplit hlast => ?_, ?_, ?_, ?_⟩
  · rw [← hspelt.strip_eq]
    exact Directive.split_key_append_flags hparse
  · exact Directive.mem_of_mem_flags hparse hflag
  · exact Directive.eq_nil_of_split_key hparse hsplit hlast
  · obtain ⟨kept, hsplit, -, hdata⟩ := Directive.split_key hparse
    exact ⟨kept, hsplit, hdata⟩
  · rw [parse_eq_ok_iff]
    cases hspelt with
    | word valid found => exact Directive.Word.parse?_key valid hparse
  · intro text' bare' other _ hother hkey
    exact Directive.refs_eq_of_key_eq (parse_eq_ok_iff.mp hother) hparse hkey

/-- What a directive comes to depends on no brace or blank of it. It is malformed just if its first
part is empty, and otherwise its key is all of its parts but the flags at the end, and asks for the
same again. -/
theorem key_of_found (flags : List Text) (hfound : text ∈ Markup.directives page) :
    ∃ bare, Says text bare ∧ (∀ other, Says other bare → Alike flags text other) ∧
      (parse flags text = .error (.malformed text) ↔ (Text.split '|' bare).head? = some []) ∧
      ∀ directive, parse flags text = .ok directive → Keyed flags bare directive := by
  obtain ⟨word, hvalid, rfl⟩ := Markup.exists_word_of_mem_directives hfound
  have hspelt := Says.word hvalid hfound
  refine ⟨_, hspelt, fun other hother => ?_, ?_, fun directive hparse =>
    keyed_of_parse hspelt hparse⟩
  · apply alike_of_strip_eq
    rw [hspelt.strip_eq, hother.strip_eq]
  · rw [parse_eq_error_iff, and_iff_left rfl, Directive.parse?_eq_none_iff, hspelt.strip_eq]

def flagged : Text :=
  '{' :: "{{> a | F|b  | F |F }}".toList

theorem key_of_flagged :
    flagged ∈ Markup.directives flagged ∧
      parse [['F']] flagged =
        .ok ⟨"a|F|b".toList, ['a'], some ['F'], [['F'], ['F']]⟩ ∧
      ∃ bare, Says flagged bare ∧ (∀ other, Says other bare → Alike [['F']] flagged other) ∧
        (parse [['F']] flagged = .error (.malformed flagged) ↔
          (Text.split '|' bare).head? = some []) ∧
        ∀ directive, parse [['F']] flagged = .ok directive →
          Keyed [['F']] bare directive := by
  have hfound : flagged ∈ Markup.directives flagged := by decide
  exact ⟨hfound, by decide, key_of_found [['F']] hfound⟩

end Transclusion.Catalogue
