import BlobVault.Proofs.Text.Utf8
import Mathlib.Tactic.SplitIfs

/-! The order of texts. The octets of a text are smaller exactly when the text is: code points that take more
octets are greater and have greater leads, and behind equal leads the octets carry the bits from the highest to
the lowest. -/
namespace BlobVault

namespace CodePoint

/-- Octets that carry six bits each, the last one the lowest bits. -/
def tails : (count : Nat) → Nat → Bytes
  | 0, _ => []
  | count + 1, n => tails count (n / 64) ++ [.ofNat (0x80 + n % 64)]

def leadBits : (count : Nat) → Nat → Nat
  | 0, n => n
  | count + 1, n => leadBits count (n / 64)

def tailCount (c : CodePoint) : Nat :=
  if c.val < 0x80 then 0 else if c.val < 0x800 then 1 else if c.val < 0x10000 then 2 else 3

/-- What a lead says of the number of octets behind it. -/
def marker : Nat → Nat
  | 0 => 0
  | 1 => 0xC0
  | 2 => 0xE0
  | _ => 0xF0

def lead (c : CodePoint) : Nat := marker c.tailCount + leadBits c.tailCount c.val

theorem utf8_eq_lead (c : CodePoint) : c.utf8 = .ofNat c.lead :: tails c.tailCount c.val := by
  rw [utf8_eq]
  unfold lead tailCount
  split_ifs <;> simp [marker, tails, leadBits, Nat.div_div_eq_div_mul]

theorem lead_lt_256 (c : CodePoint) : c.lead < 256 := by
  have bound := c.isLt
  unfold lead tailCount
  split_ifs <;> simp only [marker, leadBits] <;> omega

/-- More octets have a greater lead. -/
theorem lead_lt_of_tailCount_lt {c d : CodePoint} (longer : c.tailCount < d.tailCount) : c.lead < d.lead := by
  have bound := d.isLt
  unfold lead
  unfold tailCount at *
  split_ifs at * <;> simp only [marker, leadBits] <;> omega

theorem leadBits_mono {m n : Nat} (order : m ≤ n) (count : Nat) : leadBits count m ≤ leadBits count n := by
  induction count generalizing m n with
  | zero => exact order
  | succ count ih => exact ih (Nat.div_le_div_right order)

theorem tailCount_mono {c d : CodePoint} (order : c.val ≤ d.val) : c.tailCount ≤ d.tailCount := by
  unfold tailCount
  split_ifs <;> omega

theorem cons_octet_lt {m n : Nat} (less : m < n) (small : n < 256) (s t : Bytes) :
    UInt8.ofNat m :: s < UInt8.ofNat n :: t := by
  rw [List.cons_lt_cons_iff, UInt8.lt_iff_toNat_lt, Utf8.toNat_octet (Nat.lt_trans less small),
    Utf8.toNat_octet small]
  exact .inl less

/-- Numbers that share what a lead has of them are ordered as the octets behind it. -/
theorem tails_append_lt {count m n : Nat} (shared : leadBits count m = leadBits count n) (less : m < n)
    (s t : Bytes) : tails count m ++ s < tails count n ++ t := by
  induction count generalizing m n s t with
  | zero => exact absurd shared (Nat.ne_of_lt less)
  | succ count ih =>
    simp only [tails, List.append_assoc, List.singleton_append]
    rcases Nat.lt_or_eq_of_le (Nat.div_le_div_right (Nat.le_of_lt less)) with earlier | same
    · exact ih shared earlier _ _
    · rw [same]
      exact List.append_left_lt (cons_octet_lt (by omega) (by omega) s t)

/-- A smaller code point has smaller octets, whatever follows them. -/
theorem utf8_append_lt {c d : CodePoint} (less : c < d) (s t : Bytes) : c.utf8 ++ s < d.utf8 ++ t := by
  have order : c.val < d.val := less
  rw [utf8_eq_lead, utf8_eq_lead, List.cons_append, List.cons_append]
  rcases Nat.lt_or_eq_of_le (tailCount_mono (Nat.le_of_lt order)) with longer | same
  · exact cons_octet_lt (lead_lt_of_tailCount_lt longer) d.lead_lt_256 _ _
  · have bits := leadBits_mono (Nat.le_of_lt order) d.tailCount
    rcases Nat.lt_or_eq_of_le bits with earlier | shared
    · refine cons_octet_lt ?_ d.lead_lt_256 _ _
      unfold lead
      rw [same]
      omega
    · have leads : c.lead = d.lead := by
        unfold lead
        rw [same, shared]
      rw [leads, same]
      exact List.cons_lt_cons_iff.mpr (.inr ⟨rfl, tails_append_lt shared order s t⟩)

end CodePoint

namespace Text

theorem utf8_lt_of_lt {s t : Text} (less : s < t) : s.utf8 < t.utf8 := by
  induction (less : List.Lex (· < ·) s t) with
  | @nil c t =>
    rw [utf8, utf8, List.flatMap_nil, List.flatMap_cons, CodePoint.utf8_eq_lead]
    exact List.nil_lt_cons _ _
  | rel first => exact CodePoint.utf8_append_lt first _ _
  | cons _ ih => exact List.append_left_lt ih

/-- Octets are ordered as the code points are that they encode. -/
theorem utf8_lt_iff {s t : Text} : s.utf8 < t.utf8 ↔ s < t := by
  refine ⟨fun less => Decidable.byContradiction fun notLess => ?_, utf8_lt_of_lt⟩
  rcases List.le_iff_lt_or_eq.mp (List.not_lt.mp notLess) with greater | same
  · exact List.lt_asymm less (utf8_lt_of_lt greater)
  · rw [same] at less
    exact List.lt_irrefl _ less

end Text
end BlobVault
