import BlobVault.Proofs.Json.Text
import BlobVault.Proofs.Text.Decimal

/-! Values without parts read back: words, integers within the limit of digits, and quoted texts. -/
namespace BlobVault

/-- A scalar that reads back: no real, no integer beyond the limit of digits, and no text in which escapes
would be taken for one code point. -/
def Scalar.Readable (ascii : Bool) : Scalar → Prop
  | .null | .truth _ => True
  | .integer i => i.natAbs < Integer.bound
  | .real _ => False
  | .text t => ascii = true → t.Unpaired

namespace Json

open Reader

def Ends (rest : Text) : Prop :=
  ∀ c ∈ rest.head?, c.isAsciiDigit = false ∧ c ≠ '.' ∧ c ≠ 'e' ∧ c ≠ 'E'

theorem digitsValue_ofNat (n : Nat) : digitsValue (.ofNat n) = n := by
  rw [digitsValue, Text.ofNat, List.foldl_map]
  exact Nat.ofDigitChars_ten_toDigits

theorem takeWhile_of_ends {rest : Text} (ends : Ends rest) :
    rest.takeWhile CodePoint.isAsciiDigit = [] := by
  cases rest with
  | nil => rfl
  | cons c rest =>
    rw [List.takeWhile_cons_of_neg]
    simp [(ends c rfl).1]

theorem whole?_ofNat (n : Nat) {rest : Text} (ends : Ends rest) :
    whole? (.ofNat n ++ rest) = some (.ofNat n, rest) := by
  rcases Nat.eq_zero_or_pos n with rfl | positive
  · rfl
  · obtain ⟨c, tail, digits, first⟩ := Text.head_ofNat positive
    have run : (Text.ofNat n ++ rest).takeWhile CodePoint.isAsciiDigit = Text.ofNat n := by
      rw [List.takeWhile_append_of_pos fun _ => Text.isAsciiDigit_of_mem_ofNat,
        takeWhile_of_ends ends, List.append_nil]
    rw [digits] at run ⊢
    rw [List.cons_append] at run ⊢
    simp only [whole?, first, if_false, run, List.isEmpty_cons, Bool.false_eq_true, List.length_cons,
      List.drop_succ_cons, List.drop_left]

theorem fraction_of_ends {rest : Text} (ends : Ends rest) : fraction rest = (none, rest) := by
  cases rest with
  | nil => rfl
  | cons c rest =>
    obtain ⟨-, point, -⟩ := ends c rfl
    simp [fraction, point]

theorem exponent_of_ends {rest : Text} (ends : Ends rest) : exponent rest = (none, rest) := by
  cases rest with
  | nil => rfl
  | cons c rest =>
    obtain ⟨-, -, lower, upper⟩ := ends c rfl
    simp [exponent, lower, upper]

theorem ofNat_short {n : Nat} (short : n < Integer.bound) :
    ¬ Integer.maxDigits < (Text.ofNat n).length :=
  Nat.not_lt.mpr (Text.length_ofNat_le_maxDigits_iff.mpr short)

theorem number?_ofNat {n : Nat} (short : n < Integer.bound) {rest : Text} (ends : Ends rest) :
    number? (.ofNat n ++ rest) = some (.integer n, rest) := by
  have whole := whole?_ofNat n ends
  have short := ofNat_short short
  have value := digitsValue_ofNat n
  cases digits : Text.ofNat n with
  | nil => exact absurd digits (Text.ofNat_ne_nil n)
  | cons c tail =>
    have signless : c ≠ '-' := by
      rintro rfl
      have digit := Text.isAsciiDigit_of_mem_ofNat (digits ▸ List.mem_cons_self)
      exact absurd digit (by decide)
    rw [digits] at whole short value
    simp only [List.cons_append] at whole ⊢
    simp only [number?, signless, if_false, whole, fraction_of_ends ends, exponent_of_ends ends, short,
      value]
    rfl

/-- An integer within the limit of digits reads back. -/
theorem number?_ofInt {i : Int} (short : i.natAbs < Integer.bound) {rest : Text}
    (ends : Ends rest) : number? (.ofInt i ++ rest) = some (.integer i, rest) := by
  cases i with
  | ofNat n => exact number?_ofNat short ends
  | negSucc n =>
    have sign : Text.ofInt (.negSucc n) ++ rest = ('-' : CodePoint) :: (Text.ofNat (n + 1) ++ rest) := rfl
    have short : ¬ Integer.maxDigits < (Text.ofNat (n + 1)).length := ofNat_short short
    rw [sign]
    simp only [number?, if_true, whole?_ofNat (n + 1) ends, fraction_of_ends ends, exponent_of_ends ends,
      short, if_false, digitsValue_ofNat]
    rfl

theorem after?_of_ne {w c : CodePoint} (different : w ≠ c) (word t : Text) :
    after? (w :: word) (c :: t) = none := by
  rw [after?, if_neg different]

theorem word?_eq_none {t : Text} (apart : ∀ entry ∈ words, after? entry.1 t = none) :
    word? t = none := by
  rw [word?, List.findSome?_eq_none_iff]
  rintro ⟨word, value⟩ member
  have gone := apart _ member
  simp only at gone
  simp only [gone, Option.map_none]

theorem word?_of_digit {c : CodePoint} (digit : c.isAsciiDigit = true) (t : Text) :
    word? (c :: t) = none := by
  apply word?_eq_none
  intro entry member
  simp only [words, List.mem_cons, List.not_mem_nil, or_false] at member
  rcases member with rfl | rfl | rfl | rfl | rfl | rfl <;>
    refine after?_of_ne ?_ _ _ <;>
    rintro rfl <;>
    exact absurd digit (by decide)

theorem word?_of_minus {c : CodePoint} (digit : c.isAsciiDigit = true) (t : Text) :
    word? (('-' : CodePoint) :: c :: t) = none := by
  apply word?_eq_none
  intro entry member
  simp only [words, List.mem_cons, List.not_mem_nil, or_false] at member
  rcases member with rfl | rfl | rfl | rfl | rfl | rfl
  case inr.inr.inr.inr.inr =>
    change after? ("Infinity" : Text) (c :: t) = none
    refine after?_of_ne ?_ _ _
    rintro rfl
    exact absurd digit (by decide)
  all_goals exact after?_of_ne (by decide) _ _

/-- An integer begins with a digit, or with a minus sign and a digit. -/
theorem head_ofInt (i : Int) :
    ∃ c t, c.isAsciiDigit = true ∧
      (Text.ofInt i = c :: t ∨ Text.ofInt i = ('-' : CodePoint) :: c :: t) := by
  have natural (n : Nat) : ∃ c t, c.isAsciiDigit = true ∧ Text.ofNat n = c :: t := by
    cases digits : Text.ofNat n with
    | nil => exact absurd digits (Text.ofNat_ne_nil n)
    | cons c t => exact ⟨c, t, Text.isAsciiDigit_of_mem_ofNat (digits ▸ List.mem_cons_self), rfl⟩
  cases i with
  | ofNat n =>
    obtain ⟨c, t, digit, digits⟩ := natural n
    exact ⟨c, t, digit, .inl digits⟩
  | negSucc n =>
    obtain ⟨c, t, digit, digits⟩ := natural (n + 1)
    exact ⟨c, t, digit, .inr (congrArg _ digits)⟩

theorem word?_ofInt (i : Int) (rest : Text) : word? (.ofInt i ++ rest) = none := by
  obtain ⟨c, t, digit, plain | minus⟩ := head_ofInt i
  · rw [plain]
    exact word?_of_digit digit _
  · rw [minus]
    exact word?_of_minus digit _

/-- What begins with no quote and no bracket is a word or a number. -/
theorem value_bare {c : CodePoint} (quote : c ≠ '"') (bracket : c ≠ '[') (brace : c ≠ '{') (depth : Nat)
    (t : Text) :
    value depth (c :: t) =
      match word? (c :: t) with
      | some (s, rest) => .ok (.scalar s, rest)
      | none =>
        match number? (c :: t) with
        | some (s, rest) => .ok (.scalar s, rest)
        | none => .error .malformed := by
  rw [value.eq_def]
  exact (if_neg quote).trans ((if_neg bracket).trans (if_neg brace))

theorem value_ofInt {i : Int} (short : i.natAbs < Integer.bound) (depth : Nat) {rest : Text}
    (ends : Ends rest) : value depth (.ofInt i ++ rest) = .ok (.scalar (.integer i), rest) := by
  have number := number?_ofInt short ends
  have word := word?_ofInt i rest
  obtain ⟨c, t, digit, plain | minus⟩ := head_ofInt i
  · rw [plain, List.cons_append] at number word ⊢
    rw [value_bare, word, number]
    all_goals
      rintro rfl
      exact absurd digit (by decide)
  · rw [minus, List.cons_append] at number word ⊢
    rw [value_bare (by decide) (by decide) (by decide), word, number]

/-- A scalar in JSON reads back, whatever follows it that does not continue a number. -/
theorem value_writeScalar {ascii : Bool} {s : Scalar} (readable : s.Readable ascii) (depth : Nat)
    {rest : Text} (ends : Ends rest) :
    value depth (writeScalar ascii s ++ rest) = .ok (.scalar s, rest) := by
  cases s with
  | null =>
    rw [value.eq_def]
    rfl
  | truth b =>
    rw [value.eq_def]
    cases b <;> rfl
  | integer i => exact value_ofInt readable depth ends
  | real r => cases readable
  | text t =>
    rw [writeScalar, writeText_append, value.eq_def]
    simp only [if_true, text?_escaped readable]
    rfl

end Json
end BlobVault
