import Transclusion.Text.Utf8

namespace Transclusion.Text

/-! Where one text is found among the bytes of another. No character begins within the bytes of
another one, so that it is found between characters only. -/

variable {part text : Text} {c d : Char} {behind behind' : Bytes} {position : Nat}

theorem toUtf8_cons (c : Char) (text : Text) :
    toUtf8 (c :: text) = String.utf8EncodeChar c ++ toUtf8 text := rfl

@[simp] theorem length_toUtf8 (text : Text) : (toUtf8 text).length = byteSize text := by
  induction text with
  | nil => rfl
  | cons c text ih =>
      rw [toUtf8_cons, List.length_append, ih, String.length_utf8EncodeChar, byteSize_cons]

theorem byteSize_pos (hne : text ≠ []) : 0 < byteSize text := by
  obtain ⟨c, rest, rfl⟩ := List.exists_cons_of_ne_nil hne
  have := Char.utf8Size_pos c
  rw [byteSize_cons]
  omega

theorem eq_of_encoded_append_eq
    (happend : String.utf8EncodeChar c ++ behind = String.utf8EncodeChar d ++ behind') :
    c = d := by
  have hbytes := congrArg List.toByteArray happend
  rw [List.toByteArray_append, List.toByteArray_append] at hbytes
  have hread := congrArg (ByteArray.utf8DecodeChar? · 0) hbytes
  simpa only [ByteArray.utf8DecodeChar?_utf8EncodeChar_append, Option.some.injEq] using hread

theorem isPrefix_of_toUtf8 (hpart : toUtf8 part <+: toUtf8 text) : part <+: text := by
  induction part generalizing text with
  | nil => exact List.nil_prefix
  | cons c part ih =>
      obtain ⟨behind, hbehind⟩ := hpart
      rw [toUtf8_cons, List.append_assoc] at hbehind
      cases text with
      | nil => exact absurd (List.append_eq_nil_iff.mp hbehind).1 String.utf8EncodeChar_ne_nil
      | cons d text =>
          rw [toUtf8_cons] at hbehind
          cases eq_of_encoded_append_eq hbehind
          have hrest := ih ⟨behind, List.append_cancel_left hbehind⟩
          exact List.cons_prefix_cons.mpr ⟨rfl, hrest⟩

theorem eq_zero_of_encoded_prefix_drop (hposition : position < c.utf8Size)
    (hpart : String.utf8EncodeChar d <+: (String.utf8EncodeChar c ++ behind).drop position) :
    position = 0 := by
  have hlength : position < (String.utf8EncodeChar c).length := by
    rwa [String.length_utf8EncodeChar]
  have hpos : 0 < (String.utf8EncodeChar d).length := by
    rw [String.length_utf8EncodeChar]
    exact Char.utf8Size_pos d
  have hfirst := hpart.getElem hpos
  simp only [List.getElem_drop, Nat.add_zero, List.getElem_append_left hlength] at hfirst
  apply UInt8.isUTF8FirstByte_getElem_utf8EncodeChar.mp
  rw [← hfirst]
  exact UInt8.isUTF8FirstByte_getElem_zero_utf8EncodeChar

theorem exists_of_prefix_drop (hne : part ≠ [])
    (hpart : toUtf8 part <+: (toUtf8 text).drop position) :
    ∃ before after, text = before ++ (part ++ after) ∧ byteSize before = position := by
  induction text generalizing position with
  | nil =>
      rw [toUtf8_nil, List.drop_nil] at hpart
      exact absurd (List.prefix_nil.mp (isPrefix_of_toUtf8 hpart)) hne
  | cons c text ih =>
      rw [toUtf8_cons] at hpart
      by_cases hwithin : position < c.utf8Size
      · obtain ⟨d, rest, rfl⟩ := List.exists_cons_of_ne_nil hne
        have hd := (List.prefix_append _ (toUtf8 rest)).trans hpart
        have hzero := eq_zero_of_encoded_prefix_drop hwithin hd
        subst hzero
        rw [List.drop_zero, ← toUtf8_cons] at hpart
        obtain ⟨after, hafter⟩ := isPrefix_of_toUtf8 hpart
        exact ⟨[], after, hafter.symm, rfl⟩
      · have hsize : (String.utf8EncodeChar c).length ≤ position := by
          rw [String.length_utf8EncodeChar]
          omega
        rw [List.drop_append, List.drop_of_length_le hsize, List.nil_append] at hpart
        obtain ⟨before, after, rfl, hbefore⟩ := ih hpart
        refine ⟨c :: before, after, rfl, ?_⟩
        rw [byteSize_cons, hbefore, String.length_utf8EncodeChar]
        omega

theorem toUtf8_prefix_drop_iff (hne : part ≠ []) :
    toUtf8 part <+: (toUtf8 text).drop position ↔
      ∃ before after, text = before ++ (part ++ after) ∧ byteSize before = position := by
  constructor
  · exact exists_of_prefix_drop hne
  · rintro ⟨before, after, rfl, rfl⟩
    rw [toUtf8_append, ← length_toUtf8, List.drop_left, toUtf8_append]
    exact List.prefix_append _ _

end Transclusion.Text
