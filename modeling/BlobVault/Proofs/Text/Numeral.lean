import BlobVault.Json.Reader
import BlobVault.Proofs.Text.Pieces

/-! Decimal numerals. A text of decimal digits is read as the number that it writes, leading zeros or not, as
long as it has no more digits than an integer may have. -/
namespace BlobVault

theorem CodePoint.digitValue?_of_ascii {c : CodePoint} (digit : c.isAsciiDigit = true) :
    c.digitValue? = some (c.val - 0x30) := by
  simp only [isAsciiDigit, Bool.and_eq_true, decide_eq_true_eq] at digit
  have first : (decide (0x30 ≤ c.val) && decide (c.val < 0x30 + 10)) = true := by
    simp only [Bool.and_eq_true, decide_eq_true_eq]
    omega
  obtain ⟨zeros, latin⟩ : ∃ zeros, digitZeros = 0x30 :: zeros := ⟨_, rfl⟩
  rw [digitValue?, latin, List.find?_cons]
  simp only [first, Option.map_some]

namespace Integer

open Json.Reader (digitsValue)

/-- Decimal digits alone, no more than an integer may have. -/
structure Decimal (t : Text) : Prop where
  digits : ∀ c ∈ t, c.isAsciiDigit = true
  nonempty : t ≠ []
  short : t.length ≤ maxDigits

theorem digitValues_of_ascii {t : Text} (digits : ∀ c ∈ t, c.isAsciiDigit = true) :
    t.filterMap CodePoint.digitValue? = t.map fun c => c.val - 0x30 := by
  induction t with
  | nil => rfl
  | cons c t ih =>
    obtain ⟨digit, later⟩ := List.forall_mem_cons.mp digits
    rw [List.filterMap_cons, CodePoint.digitValue?_of_ascii digit, ih later, List.map_cons]

theorem magnitude_of_ascii {t : Text} (digits : ∀ c ∈ t, c.isAsciiDigit = true) :
    magnitude t = digitsValue t := by
  rw [magnitude, digitValues_of_ascii digits, List.foldl_map, digitsValue]

/-- A digit is no blank, no sign and no underscore. -/
theorem apart_of_digit {c : CodePoint} (digit : c.isAsciiDigit = true) :
    isBlank c = false ∧ c ≠ '-' ∧ c ≠ '+' ∧ c ≠ underscore := by
  refine ⟨?_, ?_, ?_, ?_⟩
  · simp only [CodePoint.isAsciiDigit, Bool.and_eq_true, decide_eq_true_eq] at digit
    simp only [isBlank, CodePoint.isBlank, Bool.and_eq_false_iff, Bool.or_eq_false_iff, decide_eq_false_iff_not,
      beq_eq_false_iff_ne]
    omega
  all_goals
    rintro rfl
    exact absurd digit (by decide)

theorem read_of_decimal {t : Text} (decimal : Decimal t) : read t = .ok (digitsValue t) := by
  have run : t.takeWhile isDigitOrUnderscore = t := by
    have whole : (t ++ []).takeWhile isDigitOrUnderscore = t ++ [].takeWhile isDigitOrUnderscore := by
      apply List.takeWhile_append_of_pos
      intro c member
      rw [isDigitOrUnderscore, CodePoint.digitValue?_of_ascii (decimal.digits c member)]
      rfl
    simpa using whole
  have bare : t.filter (· != underscore) = t := by
    apply List.filter_eq_self.mpr
    intro c member
    exact bne_iff_ne.mpr (apart_of_digit (decimal.digits c member)).2.2.2
  have grouped : wellGrouped t = true := by
    have clear : underscore ∉ t := fun member => (apart_of_digit (decimal.digits _ member)).2.2.2 rfl
    rw [wellGrouped, Text.pieces_of_clear clear]
    simpa using decimal.nonempty
  obtain ⟨c, rest, rfl⟩ := List.exists_cons_of_ne_nil decimal.nonempty
  obtain ⟨blank, minus, plus, -⟩ := apart_of_digit (decimal.digits c List.mem_cons_self)
  have body : splitSign ((c :: rest).dropWhile isBlank) = (false, c :: rest) := by
    rw [List.dropWhile_cons_of_neg (by simp [blank]), splitSign, if_neg minus, if_neg plus]
  simp only [read, body, run, bare, grouped, Nat.not_lt.mpr decimal.short, List.drop_length, magnitude_of_ascii decimal.digits]
  rfl

end Integer
end BlobVault
