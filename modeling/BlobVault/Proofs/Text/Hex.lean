import BlobVault.Proofs.Text.Blank
import BlobVault.Proofs.Text.CodePoint
import BlobVault.Text.Hex

/-! Hexadecimal texts and their spellings: blanks around, an optional prefix, and digits in either
case. A text reads as octets exactly when it spells them, so the octets of a text are unique. -/
namespace BlobVault

namespace Hex

def markers : List Text := [[], "0x", "0X"]

/-- The letter of a prefix, which is no digit. -/
def IsMark (c : CodePoint) : Prop := c = 'x' ∨ c = 'X'

instance (c : CodePoint) : Decidable (IsMark c) := inferInstanceAs (Decidable (_ ∨ _))

theorem mem_markers_iff {marker : Text} :
    marker ∈ markers ↔ marker = [] ∨ ∃ c, IsMark c ∧ marker = [CodePoint.ofChar '0', c] := by
  simp only [markers, List.mem_cons, List.not_mem_nil, or_false, IsMark]
  constructor
  · rintro (rfl | rfl | rfl)
    · exact .inl rfl
    · exact .inr ⟨'x', .inl rfl, rfl⟩
    · exact .inr ⟨'X', .inr rfl, rfl⟩
  · rintro (rfl | ⟨c, rfl | rfl, rfl⟩)
    · exact .inl rfl
    · exact .inr (.inl rfl)
    · exact .inr (.inr rfl)

namespace IsMark

variable {c : CodePoint} (mark : IsMark c)
include mark

theorem solid : c.isBlank = false := by
  rcases mark with rfl | rfl <;> rfl

theorem ne_zero : c ≠ '0' := by
  rcases mark with rfl | rfl <;> decide

theorem ascii : c.val < 0x80 := by
  rcases mark with rfl | rfl <;> decide

theorem digitValue?_eq_none : digitValue? c = none := by
  rcases mark with rfl | rfl <;> rfl

theorem stripPrefix_eq (rest : Text) : stripPrefix (CodePoint.ofChar '0' :: c :: rest) = rest :=
  if_pos ⟨rfl, mark⟩

end IsMark

/-- A spelling of a hexadecimal text: an optional prefix and its digits in either case, between
blanks. -/
def Respells (t spelling : Text) : Prop :=
  ∃ marker digits, marker ∈ markers ∧ digits.lowerAscii = t ∧
    Text.Padded (marker ++ digits) spelling

def Spells (t : Text) (b : Bytes) : Prop := Respells (write b) t

theorem digitValue?_eq_some_iff {c : CodePoint} {n : Nat} :
    digitValue? c = some n ↔ n < 16 ∧ c.lowerAscii = .hexDigit n := by
  rw [Fin.ext_iff, CodePoint.val_lowerAscii]
  unfold digitValue?
  constructor
  · intro h
    have small : n < 16 := by grind
    refine ⟨small, ?_⟩
    rw [CodePoint.val_hexDigit small]
    grind
  · rintro ⟨small, same⟩
    rw [CodePoint.val_hexDigit small] at same
    grind

theorem write_cons (x : UInt8) (b : Bytes) :
    write (x :: b) = .hexDigit (x.toNat / 16) :: .hexDigit (x.toNat % 16) :: write b := rfl

theorem lowerAscii_of_readDigits? {t : Text} {b : Bytes} (h : readDigits? t = some b) :
    t.lowerAscii = write b := by
  fun_induction readDigits? t generalizing b with
  | case1 => cases h; rfl
  | case2 => contradiction
  | case3 c d rest hi lo tail readRest readLo readHi ih =>
    cases h
    obtain ⟨smallHi, high⟩ := digitValue?_eq_some_iff.mp readHi
    obtain ⟨smallLo, low⟩ := digitValue?_eq_some_iff.mp readLo
    have octet : (UInt8.ofNat (16 * hi + lo)).toNat = 16 * hi + lo :=
      UInt8.toNat_ofNat_of_lt' (by change _ < 256; omega)
    rw [write_cons, octet, ← ih readRest, show (16 * hi + lo) / 16 = hi by omega,
      show (16 * hi + lo) % 16 = lo by omega, ← high, ← low]
    rfl
  | case4 => contradiction

theorem readDigits?_of_lowerAscii {t : Text} {b : Bytes} (h : t.lowerAscii = write b) :
    readDigits? t = some b := by
  induction b generalizing t with
  | nil =>
    obtain rfl : t = [] := List.map_eq_nil_iff.mp h
    rfl
  | cons x b ih =>
    rw [write_cons] at h
    obtain ⟨c, t, rfl, high, h⟩ := List.map_eq_cons_iff.mp h
    obtain ⟨d, rest, rfl, low, h⟩ := List.map_eq_cons_iff.mp h
    have bound := x.toNat_lt
    have readHigh : digitValue? c = some (x.toNat / 16) := digitValue?_eq_some_iff.mpr ⟨by omega, high⟩
    have readLow : digitValue? d = some (x.toNat % 16) := digitValue?_eq_some_iff.mpr ⟨by omega, low⟩
    simp only [readDigits?, readHigh, readLow, ih h, Nat.div_add_mod, UInt8.ofNat_toNat]

/-- The digits of octets, in either case, are exactly what reads as them. -/
theorem readDigits?_eq_some_iff {t : Text} {b : Bytes} :
    readDigits? t = some b ↔ t.lowerAscii = write b :=
  ⟨lowerAscii_of_readDigits?, readDigits?_of_lowerAscii⟩

theorem lowerAscii_hexDigit {n : Nat} (h : n < 16) :
    (CodePoint.hexDigit n).lowerAscii = .hexDigit n := by
  rw [Fin.ext_iff, CodePoint.val_lowerAscii, CodePoint.val_hexDigit h]
  grind

theorem lowerAscii_write (b : Bytes) : (write b).lowerAscii = write b := by
  induction b with
  | nil => rfl
  | cons x b ih =>
    have bound := x.toNat_lt
    rw [write_cons]
    change CodePoint.lowerAscii _ :: CodePoint.lowerAscii _ :: Text.lowerAscii _ = _
    rw [ih, lowerAscii_hexDigit (by omega), lowerAscii_hexDigit (by omega)]

theorem readDigits?_write (b : Bytes) : readDigits? (write b) = some b :=
  readDigits?_of_lowerAscii (lowerAscii_write b)

theorem write_injective {a b : Bytes} (h : write a = write b) : a = b := by
  have same := readDigits?_write a
  rw [h, readDigits?_write] at same
  exact (Option.some.inj same).symm

theorem Respells.self (b : Bytes) : Respells (write b) (write b) :=
  ⟨[], write b, by decide, lowerAscii_write b, Text.Padded.self _⟩

theorem digit_of_lowerAscii {t : Text} {b : Bytes} (h : t.lowerAscii = write b) :
    ∀ c ∈ t, ∃ n, digitValue? c = some n := by
  intro c member
  have low : c.lowerAscii ∈ write b := h ▸ List.mem_map_of_mem member
  obtain ⟨x, -, place⟩ := List.mem_flatMap.mp low
  have bound := x.toNat_lt
  simp only [writeOctet, List.mem_cons, List.not_mem_nil, or_false] at place
  rcases place with high | low
  · exact ⟨_, digitValue?_eq_some_iff.mpr ⟨by omega, high⟩⟩
  · exact ⟨_, digitValue?_eq_some_iff.mpr ⟨by omega, low⟩⟩

theorem isBlank_of_digit {c : CodePoint} {n : Nat} (h : digitValue? c = some n) :
    c.isBlank = false := by
  have digit : (0x30 ≤ c.val ∧ c.val ≤ 0x39) ∨ (0x61 ≤ c.val ∧ c.val ≤ 0x66) ∨
      (0x41 ≤ c.val ∧ c.val ≤ 0x46) := by
    unfold digitValue? at h
    grind
  simp only [CodePoint.isBlank, Bool.or_eq_false_iff, Bool.and_eq_false_iff, decide_eq_false_iff_not,
    beq_eq_false_iff_ne]
  omega

theorem solid_of_marker {marker : Text} (known : marker ∈ markers) : marker.Solid := by
  rcases mem_markers_iff.mp known with rfl | ⟨c, mark, rfl⟩
  · exact fun _ member => nomatch member
  · exact List.forall_mem_cons.mpr ⟨rfl, List.forall_mem_singleton.mpr mark.solid⟩

/-- The prefix that is removed from a text, if any. -/
theorem stripPrefix_split (t : Text) :
    ∃ marker ∈ markers, t = marker ++ stripPrefix t := by
  unfold stripPrefix
  split
  · split
    · rename_i c d rest marked
      obtain ⟨rfl, rfl | rfl⟩ := marked
      · exact ⟨"0x", by decide, rfl⟩
      · exact ⟨"0X", by decide, rfl⟩
    · exact ⟨[], by decide, rfl⟩
  · exact ⟨[], by decide, rfl⟩

/-- Digits after a prefix are kept whole, since no prefix consists of digits. -/
theorem stripPrefix_marked {marker digits : Text} (known : marker ∈ markers)
    (all : ∀ c ∈ digits, ∃ n, digitValue? c = some n) : stripPrefix (marker ++ digits) = digits := by
  rcases mem_markers_iff.mp known with rfl | ⟨c, mark, rfl⟩
  · unfold stripPrefix
    split
    · rename_i c d rest same
      split
      · rename_i marked
        obtain ⟨n, read⟩ := all d (by simp only [List.nil_append] at same; simp [same])
        have mark : IsMark d := marked.2
        cases mark.digitValue?_eq_none.symm.trans read
      · exact same.symm
    · rfl
  · exact mark.stripPrefix_eq digits

/-- A text reads as octets exactly when it spells them. -/
theorem read?_eq_some_iff {t : Text} {b : Bytes} : read? t = some b ↔ Spells t b := by
  constructor
  · intro h
    obtain ⟨marker, known, split⟩ := stripPrefix_split t.strip
    refine ⟨marker, stripPrefix t.strip, known, readDigits?_eq_some_iff.mp h, ?_⟩
    rw [← split]
    exact Text.padded_strip t
  · rintro ⟨marker, digits, known, lower, padded⟩
    have all := digit_of_lowerAscii lower
    have solid : Text.Solid (marker ++ digits) := by
      intro c member
      rcases List.mem_append.mp member with inMarker | inDigits
      · exact solid_of_marker known c inMarker
      · obtain ⟨n, read⟩ := all c inDigits
        exact isBlank_of_digit read
    rw [read?, Text.strip_padded solid padded, stripPrefix_marked known all]
    exact readDigits?_of_lowerAscii lower

end Hex
end BlobVault
