import BlobVault.Text.Quoted

/-! The numbers of code points. -/
namespace BlobVault

namespace CodePoint

theorem val_ofNat {n : Nat} (h : n < 0x110000) : (ofNat n).val = n := by
  simp only [ofNat, h, dite_true]

theorem ofNat_val {c : CodePoint} {n : Nat} (same : n = c.val) : ofNat n = c := by
  subst same
  simp [ofNat]

theorem val_lowerAscii (c : CodePoint) :
    c.lowerAscii.val = if 0x41 ≤ c.val ∧ c.val ≤ 0x5A then c.val + 32 else c.val := by
  unfold lowerAscii
  simp only [Bool.and_eq_true, decide_eq_true_eq]
  split
  · exact val_ofNat (by omega)
  · rfl

theorem val_hexDigit {n : Nat} (h : n < 16) :
    (hexDigit n).val = if n < 10 then 0x30 + n else 0x57 + n := by
  unfold hexDigit
  split <;> exact val_ofNat (by omega)

end CodePoint

end BlobVault
