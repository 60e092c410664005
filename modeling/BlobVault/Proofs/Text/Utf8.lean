import BlobVault.Proofs.Text.CodePoint
import BlobVault.Text.Utf8

/-! UTF-8 of a text without surrogates reads back as the text, so such a text is known by its octets. -/
namespace BlobVault

/-- The octets of a code point, each from the bits that it carries. -/
theorem CodePoint.utf8_eq (c : CodePoint) :
    c.utf8 =
      if c.val < 0x80 then [.ofNat c.val]
      else if c.val < 0x800 then [.ofNat (0xC0 + c.val / 64), .ofNat (0x80 + c.val % 64)]
      else if c.val < 0x10000 then
        [.ofNat (0xE0 + c.val / 4096), .ofNat (0x80 + c.val / 64 % 64), .ofNat (0x80 + c.val % 64)]
      else
        [.ofNat (0xF0 + c.val / 262144), .ofNat (0x80 + c.val / 4096 % 64),
          .ofNat (0x80 + c.val / 64 % 64), .ofNat (0x80 + c.val % 64)] := by
  rfl

namespace Utf8

theorem toNat_octet {n : Nat} (small : n < 256) : (UInt8.ofNat n).toNat = n :=
  UInt8.toNat_ofNat_of_lt' small

theorem between_iff {low high b : UInt8} :
    (decide (low ≤ b) && decide (b ≤ high)) = true ↔ low.toNat ≤ b.toNat ∧ b.toNat ≤ high.toNat := by
  simp only [Bool.and_eq_true, decide_eq_true_eq, UInt8.le_iff_toNat_le]

theorem isTail_iff {b : UInt8} : isTail b = true ↔ 0x80 ≤ b.toNat ∧ b.toNat ≤ 0xBF := between_iff

theorem isTail_ofNat (n : Nat) : isTail (.ofNat (0x80 + n % 64)) = true := by
  rw [isTail_iff, toNat_octet (by omega)]
  omega

theorem bits_ofNat (n : Nat) : bits (.ofNat (0x80 + n % 64)) = n % 64 := by
  rw [bits, toNat_octet (by omega)]
  omega

theorem isSecondOfThree_iff {lead b : UInt8} :
    isSecondOfThree lead b = true ↔
      (if lead.toNat = 0xE0 then 0xA0 else 0x80) ≤ b.toNat ∧
        b.toNat ≤ (if lead.toNat = 0xED then 0x9F else 0xBF) := by
  have first : lead = 0xE0 ↔ lead.toNat = 0xE0 := UInt8.toNat_inj.symm
  have last : lead = 0xED ↔ lead.toNat = 0xED := UInt8.toNat_inj.symm
  unfold isSecondOfThree
  by_cases overlong : lead.toNat = 0xE0
  · simp only [first, overlong, if_true]
    exact between_iff
  · by_cases surrogate : lead.toNat = 0xED
    · simp only [first, last, surrogate, if_true]
      exact between_iff
    · simp only [first, last, overlong, surrogate, if_false]
      exact isTail_iff

theorem isSecondOfFour_iff {lead b : UInt8} :
    isSecondOfFour lead b = true ↔
      (if lead.toNat = 0xF0 then 0x90 else 0x80) ≤ b.toNat ∧
        b.toNat ≤ (if lead.toNat = 0xF4 then 0x8F else 0xBF) := by
  have first : lead = 0xF0 ↔ lead.toNat = 0xF0 := UInt8.toNat_inj.symm
  have last : lead = 0xF4 ↔ lead.toNat = 0xF4 := UInt8.toNat_inj.symm
  unfold isSecondOfFour
  by_cases overlong : lead.toNat = 0xF0
  · simp only [first, overlong, if_true]
    exact between_iff
  · by_cases above : lead.toNat = 0xF4
    · simp only [first, last, above, if_true]
      exact between_iff
    · simp only [first, last, overlong, above, if_false]
      exact isTail_iff

theorem wide_iff {a : UInt8} : a < 0x80 ↔ a.toNat < 0x80 := UInt8.lt_iff_toNat_lt

theorem decodeLossy_one {a : UInt8} (lead : a.toNat < 0x80) (rest : Bytes) :
    decodeLossy (a :: rest) = .ofNat a.toNat :: decodeLossy rest := by
  rw [decodeLossy.eq_def]
  simp only [wide_iff, lead, if_true]

theorem decodeLossy_two {a b : UInt8} (lead : 0xC2 ≤ a.toNat ∧ a.toNat ≤ 0xDF)
    (tail : isTail b = true) (rest : Bytes) :
    decodeLossy (a :: b :: rest) = .ofNat (a.toNat % 32 * 64 + bits b) :: decodeLossy rest := by
  have wide : ¬ a.toNat < 0x80 := by omega
  have two : (decide (0xC2 ≤ a) && decide (a ≤ 0xDF)) = true := between_iff.mpr lead
  rw [decodeLossy.eq_def]
  simp only [wide_iff, wide, if_false, two, if_true, tail]

theorem decodeLossy_three {a b c : UInt8} (lead : 0xE0 ≤ a.toNat ∧ a.toNat ≤ 0xEF)
    (second : isSecondOfThree a b = true) (tail : isTail c = true) (rest : Bytes) :
    decodeLossy (a :: b :: c :: rest) =
      .ofNat (a.toNat % 16 * 4096 + bits b * 64 + bits c) :: decodeLossy rest := by
  have wide : ¬ a.toNat < 0x80 := by omega
  have two : ¬ (decide (0xC2 ≤ a) && decide (a ≤ 0xDF)) = true := by
    rw [between_iff]
    change ¬ (_ ∧ _ ≤ 0xDF)
    omega
  have three : (decide (0xE0 ≤ a) && decide (a ≤ 0xEF)) = true := between_iff.mpr lead
  rw [decodeLossy.eq_def]
  simp only [wide_iff, wide, two, Bool.false_eq_true, if_false, three, if_true, second, tail]

theorem decodeLossy_four {a b c d : UInt8} (lead : 0xF0 ≤ a.toNat ∧ a.toNat ≤ 0xF4)
    (second : isSecondOfFour a b = true) (third : isTail c = true) (tail : isTail d = true)
    (rest : Bytes) :
    decodeLossy (a :: b :: c :: d :: rest) =
      .ofNat (a.toNat % 8 * 262144 + bits b * 4096 + bits c * 64 + bits d) :: decodeLossy rest := by
  have wide : ¬ a.toNat < 0x80 := by omega
  have two : ¬ (decide (0xC2 ≤ a) && decide (a ≤ 0xDF)) = true := by
    rw [between_iff]
    change ¬ (_ ∧ _ ≤ 0xDF)
    omega
  have three : ¬ (decide (0xE0 ≤ a) && decide (a ≤ 0xEF)) = true := by
    rw [between_iff]
    change ¬ (_ ∧ _ ≤ 0xEF)
    omega
  have four : (decide (0xF0 ≤ a) && decide (a ≤ 0xF4)) = true := between_iff.mpr lead
  rw [decodeLossy.eq_def]
  simp only [wide_iff, wide, two, three, Bool.false_eq_true, if_false, four, if_true, second, third, tail]

/-- A code point that is no surrogate is read off the front of any octets. -/
theorem decodeLossy_utf8_append {c : CodePoint} (plain : c.isSurrogate = false) (rest : Bytes) :
    decodeLossy (c.utf8 ++ rest) = c :: decodeLossy rest := by
  have bound := c.isLt
  have plain : c.val < 0xD800 ∨ 0xDFFF < c.val := by
    simp only [CodePoint.isSurrogate, Bool.and_eq_false_iff, decide_eq_false_iff_not] at plain
    omega
  rw [CodePoint.utf8_eq]
  split
  · have lead := toNat_octet (show c.val < 256 by omega)
    refine (decodeLossy_one (by omega) rest).trans ?_
    rw [CodePoint.ofNat_val lead]
  split
  · have lead := toNat_octet (show 0xC0 + c.val / 64 < 256 by omega)
    refine (decodeLossy_two (by omega) (isTail_ofNat _) rest).trans ?_
    rw [CodePoint.ofNat_val]
    rw [lead, bits_ofNat]
    omega
  split
  · have lead := toNat_octet (show 0xE0 + c.val / 4096 < 256 by omega)
    have second := toNat_octet (show 0x80 + c.val / 64 % 64 < 256 by omega)
    refine (decodeLossy_three (by omega) ?_ (isTail_ofNat _) rest).trans ?_
    · rw [isSecondOfThree_iff, lead, second]
      split <;> split <;> omega
    · rw [CodePoint.ofNat_val]
      rw [lead, bits_ofNat, bits_ofNat]
      omega
  · have lead := toNat_octet (show 0xF0 + c.val / 262144 < 256 by omega)
    have second := toNat_octet (show 0x80 + c.val / 4096 % 64 < 256 by omega)
    refine (decodeLossy_four (by omega) ?_ (isTail_ofNat _) (isTail_ofNat _) rest).trans ?_
    · rw [isSecondOfFour_iff, lead, second]
      split <;> split <;> omega
    · rw [CodePoint.ofNat_val]
      rw [lead, bits_ofNat, bits_ofNat, bits_ofNat]
      omega

theorem decodeLossy_utf8 {t : Text} (plain : t.hasSurrogate = false) : decodeLossy t.utf8 = t := by
  induction t with
  | nil => rfl
  | cons c t ih =>
    obtain ⟨first, rest⟩ := Bool.or_eq_false_iff.mp plain
    change decodeLossy (c.utf8 ++ Text.utf8 t) = _
    rw [decodeLossy_utf8_append first, ih rest]

theorem plain_ofNat {n : Nat} (outside : n < 0xD800 ∨ 0xDFFF < n) :
    (CodePoint.ofNat n).isSurrogate = false := by
  unfold CodePoint.ofNat
  split
  · simp only [CodePoint.isSurrogate, Bool.and_eq_false_iff, decide_eq_false_iff_not]
    omega
  · rfl

/-- The second of three octets excludes the surrogates. -/
theorem plain_three {a b : UInt8} (lead : (decide (0xE0 ≤ a) && decide (a ≤ 0xEF)) = true)
    (second : isSecondOfThree a b = true) (c : UInt8) :
    (CodePoint.ofNat (a.toNat % 16 * 4096 + bits b * 64 + bits c)).isSurrogate = false := by
  have lead : 0xE0 ≤ a.toNat ∧ a.toNat ≤ 0xEF := between_iff.mp lead
  have second := isSecondOfThree_iff.mp second
  apply plain_ofNat
  unfold bits
  split at second <;> split at second <;> omega

/-- The second of four octets excludes everything that is shorter. -/
theorem plain_four {a b : UInt8} (lead : (decide (0xF0 ≤ a) && decide (a ≤ 0xF4)) = true)
    (second : isSecondOfFour a b = true) (c d : UInt8) :
    (CodePoint.ofNat (a.toNat % 8 * 262144 + bits b * 4096 + bits c * 64 + bits d)).isSurrogate =
      false := by
  have lead : 0xF0 ≤ a.toNat ∧ a.toNat ≤ 0xF4 := between_iff.mp lead
  have second := isSecondOfFour_iff.mp second
  apply plain_ofNat
  unfold bits
  split at second <;> split at second <;> omega

/-- Whatever octets are read, no surrogate comes out. -/
theorem plain_decodeLossy (b : Bytes) : (decodeLossy b).hasSurrogate = false := by
  have cons {c : CodePoint} {t : Text} (first : c.isSurrogate = false) (rest : t.hasSurrogate = false) :
      Text.hasSurrogate (c :: t) = false := Bool.or_eq_false_iff.mpr ⟨first, rest⟩
  have replaced : replacement.isSurrogate = false := rfl
  fun_induction decodeLossy b with
  | case1 => rfl
  | case2 a rest lead ih =>
    have bound := wide_iff.mp lead
    exact cons (plain_ofNat (.inl (by omega))) ih
  | case4 a _ lead b rest tail ih =>
    refine cons (plain_ofNat (.inl ?_)) ih
    unfold bits
    omega
  | case8 a _ _ lead b second c rest tail ih => exact cons (plain_three lead second c) ih
  | case14 a _ _ _ lead b second c third d rest tail ih => exact cons (plain_four lead second c d) ih
  | case3 | case6 | case7 | case11 | case12 | case13 => exact cons replaced rfl
  | case5 | case9 | case10 | case15 | case16 | case17 | case18 => exact cons replaced (by assumption)

end Utf8

theorem Text.utf8_injective {s t : Text} (plain : s.hasSurrogate = false) (other : t.hasSurrogate = false)
    (same : s.utf8 = t.utf8) : s = t := by
  rw [← Utf8.decodeLossy_utf8 plain, same, Utf8.decodeLossy_utf8 other]

end BlobVault
