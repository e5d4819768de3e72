import Transclusion.Proofs.Text.Bytes
import Transclusion.Text.Percent

namespace Transclusion.Text

/-! Bytes as percent escapes, and read again. -/

variable {bytes : Bytes} {code rest : Text} {c : Char} {value : Nat}

/-- Each byte as `%` and the two digits that stand for it, of either case. -/
inductive Escapes : Bytes → Text → Prop where
  | nil : Escapes [] []
  | cons {byte : UInt8} {bytes : Bytes} {high low : Char} {code : Text}
      (highValue : hexValue? high = some (byte.toNat / 16))
      (lowValue : hexValue? low = some (byte.toNat % 16)) (rest : Escapes bytes code) :
      Escapes (byte :: bytes) ('%' :: high :: low :: code)

theorem exists_hexValue? (hvalue : value < 16) : ∃ c, hexValue? c = some value := by
  have hdigit : ∀ value < 16,
      hexValue? ("0123456789ABCDEF".toList.getD value '0') = some value := by
    decide
  exact ⟨_, hdigit value hvalue⟩

theorem exists_escapes (bytes : Bytes) : ∃ code, Escapes bytes code := by
  induction bytes with
  | nil => exact ⟨[], .nil⟩
  | cons byte bytes ih =>
      have hbyte := byte.toNat_lt
      obtain ⟨high, hhigh⟩ := exists_hexValue? (show byte.toNat / 16 < 16 by omega)
      obtain ⟨low, hlow⟩ := exists_hexValue? (show byte.toNat % 16 < 16 by omega)
      obtain ⟨code, hcode⟩ := ih
      exact ⟨_, .cons hhigh hlow hcode⟩

theorem Escapes.notMem (hcode : Escapes bytes code) (hpercent : c ≠ '%')
    (hdigit : hexValue? c = none) : c ∉ code := by
  induction hcode with
  | nil => exact List.not_mem_nil
  | cons highValue lowValue rest ih =>
      intro hmem
      rcases List.mem_cons.mp hmem with rfl | hmem
      · exact hpercent rfl
      · rcases List.mem_cons.mp hmem with rfl | hmem
        · cases hdigit.symm.trans highValue
        · rcases List.mem_cons.mp hmem with rfl | hmem
          · cases hdigit.symm.trans lowValue
          · exact ih hmem

theorem percentBytes_cons (hne : c ≠ '%') (rest : Text) :
    percentBytes (c :: rest) = toUtf8 [c] ++ percentBytes rest := by
  rw [percentBytes]
  exact fun _ _ _ heq => absurd heq hne

theorem Escapes.percentBytes_append (hcode : Escapes bytes code) (rest : Text) :
    percentBytes (code ++ rest) = bytes ++ percentBytes rest := by
  induction hcode with
  | nil => rfl
  | @cons byte bytes high low code highValue lowValue _ ih =>
      have hbyte : UInt8.ofNat (16 * (byte.toNat / 16) + byte.toNat % 16) = byte := by
        rw [Nat.div_add_mod, UInt8.ofNat_toNat]
      rw [List.cons_append, List.cons_append, List.cons_append, percentBytes]
      simp only [highValue, lowValue, hbyte, ih, List.cons_append]

end Transclusion.Text
