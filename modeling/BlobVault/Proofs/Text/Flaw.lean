import BlobVault.Proofs.Text.Hex

/-! What keeps a text from being hexadecimal. A text without a flaw reads as octets: without the blanks around it
and one prefix it consists of digits, an even number of them. -/
namespace BlobVault.Hex

/-- What is left of a text without the blanks around it and without one prefix. -/
def core (t : Text) : Text := stripPrefix t.strip

/-- The core of a text is the text without blanks around it and without a prefix. -/
theorem padded_core (t : Text) : ∃ marker ∈ markers, Text.Padded (marker ++ core t) t := by
  obtain ⟨marker, known, split⟩ := stripPrefix_split t.strip
  refine ⟨marker, known, ?_⟩
  rw [core, ← split]
  exact Text.padded_strip t

def IsDigit (c : CodePoint) : Prop :=
  (0x30 ≤ c.val ∧ c.val ≤ 0x39) ∨ (0x61 ≤ c.val ∧ c.val ≤ 0x66) ∨ (0x41 ≤ c.val ∧ c.val ≤ 0x46)

instance (c : CodePoint) : Decidable (IsDigit c) := inferInstanceAs (Decidable (_ ∨ _))

inductive Flaw (t : Text) : Prop where
  | secondPrefix (marker rest : Text) : marker ∈ markers → marker ≠ [] → core t = marker ++ rest → Flaw t
  | innerBlank (c : CodePoint) : c ∈ core t → c.isBlank = true → Flaw t
  | beyondAscii (c : CodePoint) : c ∈ core t → 0x80 ≤ c.val → Flaw t
  | noDigit (c : CodePoint) : c ∈ core t → ¬ IsDigit c → Flaw t
  | oddDigits : (core t).length % 2 = 1 → Flaw t

theorem isDigit_iff {c : CodePoint} : IsDigit c ↔ ∃ n, digitValue? c = some n := by
  rw [← Option.isSome_iff_exists]
  unfold IsDigit digitValue?
  grind

theorem IsMark.not_digit {c : CodePoint} (mark : IsMark c) : ¬ IsDigit c := by
  intro digit
  obtain ⟨n, read⟩ := isDigit_iff.mp digit
  cases mark.digitValue?_eq_none.symm.trans read

theorem solid_of_isDigit {c : CodePoint} (digit : IsDigit c) : c.isBlank = false := by
  obtain ⟨n, read⟩ := isDigit_iff.mp digit
  exact isBlank_of_digit read

theorem length_write (b : Bytes) : (write b).length = 2 * b.length := by
  induction b with
  | nil => rfl
  | cons x b ih =>
    rw [write_cons, List.length_cons, List.length_cons, ih, List.length_cons]
    omega

theorem length_of_readDigits? {t : Text} {b : Bytes} (read : readDigits? t = some b) :
    t.length = 2 * b.length := by
  rw [← length_write, ← lowerAscii_of_readDigits? read, Text.lowerAscii, List.length_map]

theorem isDigit_of_readDigits? {t : Text} {b : Bytes} (read : readDigits? t = some b) :
    ∀ c ∈ t, IsDigit c := by
  intro c member
  exact isDigit_iff.mpr (digit_of_lowerAscii (lowerAscii_of_readDigits? read) c member)

/-- Digits in pairs are octets. -/
theorem readDigits?_of_digits {t : Text} (digits : ∀ c ∈ t, IsDigit c) (even : t.length % 2 = 0) :
    ∃ b, readDigits? t = some b := by
  fun_induction readDigits? t with
  | case1 => exact ⟨[], rfl⟩
  | case2 => contradiction
  | case3 c d rest hi lo tail readRest readLo readHi ih => exact ⟨_, rfl⟩
  | case4 c d rest unread ih =>
    simp only [List.forall_mem_cons] at digits
    obtain ⟨high, low, others⟩ := digits
    obtain ⟨hi, readHi⟩ := isDigit_iff.mp high
    obtain ⟨lo, readLo⟩ := isDigit_iff.mp low
    rw [List.length_cons, List.length_cons] at even
    obtain ⟨b, readRest⟩ := ih others (by omega)
    exact absurd readRest (unread hi lo b readHi readLo)

theorem Flaw.unread {t : Text} (flaw : Flaw t) : read? t = none := by
  rw [Option.eq_none_iff_forall_ne_some]
  intro b read
  have digits := isDigit_of_readDigits? read
  have length := length_of_readDigits? read
  cases flaw with
  | secondPrefix marker rest known some same =>
    obtain ⟨c, mark, rfl⟩ := (mem_markers_iff.mp known).resolve_left some
    rw [← core, same] at digits
    exact mark.not_digit (digits c (by simp))
  | innerBlank c member blank =>
    cases (solid_of_isDigit (digits c member)).symm.trans blank
  | beyondAscii c member high =>
    have range := digits c member
    unfold IsDigit at range
    omega
  | noDigit c member other => exact other (digits c member)
  | oddDigits odd =>
    rw [core] at odd
    omega

/-- A text reads as octets unless it has a flaw. -/
theorem read?_eq_none_iff {t : Text} : read? t = none ↔ Flaw t := by
  constructor
  · intro unread
    by_contra flawless
    have digits : ∀ c ∈ core t, IsDigit c := by
      intro c member
      by_contra other
      exact flawless (.noDigit c member other)
    have even : (core t).length % 2 = 0 := by
      by_contra odd
      exact flawless (.oddDigits (by omega))
    obtain ⟨b, read⟩ := readDigits?_of_digits digits even
    cases unread.symm.trans read
  · exact Flaw.unread

end BlobVault.Hex
