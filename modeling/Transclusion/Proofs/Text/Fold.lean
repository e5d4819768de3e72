import Transclusion.Text.Fold

namespace Transclusion.Text

/-! Case variants of the characters of ASCII. Beyond ASCII there are two: the long s and the Kelvin
sign. -/

variable {c d : Char}

/-- Characters beyond ASCII whose variants are there too, or one of the two that are not so. -/
def CaseRun.StaysOut (run : CaseRun) : Prop :=
  (0x80 ≤ run.image ∧ (run.image + (run.last - run.first) < 0xD800 ∨
    0xDFFF < run.image ∧ run.image + (run.last - run.first) < 0x110000)) ∨
  (run.first = run.last ∧ (run.first = 0x17F ∨ run.first = 0x212A))

instance (run : CaseRun) : Decidable run.StaysOut := by
  unfold CaseRun.StaysOut
  infer_instance

theorem staysOut_foldRuns : ∀ run ∈ foldRuns, run.StaysOut := by
  decide +kernel

theorem CaseRun.image?_bounds {run : CaseRun} {code image : Nat}
    (himage : run.image? code = some image) :
    run.first ≤ code ∧ code ≤ run.last ∧ image = run.image + (code - run.first) := by
  unfold CaseRun.image? at himage
  split at himage
  · next hcode => exact ⟨hcode.1, hcode.2.1, (Option.some.inj himage).symm⟩
  · cases himage

theorem toNat_fold_of_le (hc : 0x80 ≤ c.toNat) (hlong : c ≠ '\u017f') (hkelvin : c ≠ '\u212a') :
    0x80 ≤ (fold c).toNat := by
  unfold fold CaseRun.apply
  rw [if_neg (by omega)]
  cases hfound : foldRuns.findSome? fun run => run.image? c.toNat with
  | none => exact hc
  | some image =>
      obtain ⟨run, hrun, himage⟩ := List.exists_of_findSome?_eq_some hfound
      obtain ⟨hfirst, hlast, rfl⟩ := CaseRun.image?_bounds himage
      change 0x80 ≤ (Char.ofNat _).toNat
      rcases staysOut_foldRuns run hrun with ⟨hlow, hvalid⟩ | ⟨hsingle, hspecial⟩
      · have hscalar : (run.image + (c.toNat - run.first)).isValidChar := by
          unfold Nat.isValidChar
          omega
        rw [Char.ofNat, dif_pos hscalar]
        change 0x80 ≤ run.image + (c.toNat - run.first)
        omega
      · rcases hspecial with heq | heq
        · have hcode : c.toNat = ('\u017f').toNat := by
            change c.toNat = 0x17F
            omega
          exact absurd (Char.toNat_inj.mp hcode) hlong
        · have hcode : c.toNat = ('\u212a').toNat := by
            change c.toNat = 0x212A
            omega
          exact absurd (Char.toNat_inj.mp hcode) hkelvin

theorem toNat_lt_of_sameFold (hc : (fold c).toNat < 0x80) (hsame : sameFold c d = true)
    (hlong : d ≠ '\u017f') (hkelvin : d ≠ '\u212a') : d.toNat < 0x80 := by
  have hfold : fold c = fold d := beq_iff_eq.mp hsame
  rcases Nat.lt_or_ge d.toNat 0x80 with hd | hd
  · exact hd
  · have hbeyond := toNat_fold_of_le hd hlong hkelvin
    rw [← hfold] at hbeyond
    omega

end Transclusion.Text
