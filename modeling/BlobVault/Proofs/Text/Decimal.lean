import BlobVault.Text.Integer

/-! Decimal texts: digits only, without a leading zero, and as many as the size of the number says. -/
namespace BlobVault.Text

theorem isAsciiDigit_ofChar {c : Char} (digit : c.isDigit = true) :
    (CodePoint.ofChar c).isAsciiDigit = true := by
  rw [Char.isDigit, Bool.and_eq_true, decide_eq_true_eq, decide_eq_true_eq] at digit
  rw [CodePoint.isAsciiDigit, Bool.and_eq_true, decide_eq_true_eq, decide_eq_true_eq]
  exact digit

theorem isAsciiDigit_of_mem_ofNat {n : Nat} {c : CodePoint} (member : c ∈ ofNat n) :
    c.isAsciiDigit = true := by
  obtain ⟨d, place, rfl⟩ := List.mem_map.mp member
  exact isAsciiDigit_ofChar (Nat.isDigit_of_mem_toDigits (by decide) (by decide) place)

theorem ofNat_ne_nil (n : Nat) : ofNat n ≠ [] := by
  rw [ofNat, ne_eq, List.map_eq_nil_iff]
  exact Nat.toDigits_ne_nil

/-- A positive number begins with no zero. -/
theorem head_toDigits {n : Nat} (positive : 0 < n) :
    ∃ c rest, Nat.toDigits 10 n = c :: rest ∧ c ≠ '0' := by
  induction n using Nat.base_induction 10 (by decide) with
  | single m small =>
    refine ⟨m.digitChar, [], Nat.toDigits_of_lt_base small, ?_⟩
    intro zero
    have value := Nat.toNat_digitChar_sub_48_of_lt_ten small
    rw [zero] at value
    exact absurd value (Nat.ne_of_lt positive)
  | digit m k small leading ih =>
    obtain ⟨c, rest, digits, first⟩ := ih leading
    rw [← Nat.toDigits_append_toDigits (by decide) leading small, digits]
    exact ⟨c, rest ++ Nat.toDigits 10 k, rfl, first⟩

theorem head_ofNat {n : Nat} (positive : 0 < n) :
    ∃ c rest, ofNat n = c :: rest ∧ c ≠ '0' := by
  obtain ⟨c, rest, digits, first⟩ := head_toDigits positive
  refine ⟨.ofChar c, rest.map .ofChar, by rw [ofNat, digits]; rfl, ?_⟩
  intro same
  have number := congrArg Fin.val same
  exact first (Char.toNat_inj.mp number)

theorem length_ofNat_le_maxDigits_iff {n : Nat} :
    (ofNat n).length ≤ Integer.maxDigits ↔ n < Integer.bound := by
  have positive : 0 < Integer.maxDigits := by decide
  rw [ofNat, List.length_map]
  unfold Integer.bound
  -- The power itself is never computed.
  generalize Integer.maxDigits = k at positive ⊢
  exact Nat.length_toDigits_le_iff (by decide) positive

end BlobVault.Text

theorem BlobVault.Integer.pow_lt_bound {k : Nat} (short : k < maxDigits) : Nat.pow 10 k < bound := by
  unfold bound
  generalize maxDigits = m at short ⊢
  exact Nat.pow_lt_pow_right (by decide) short

/-- An integer of few digits can be written. -/
theorem BlobVault.Integer.text?_of_small {i : Int} {k : Nat} (small : i.natAbs ≤ Nat.pow 10 k)
    (short : k < maxDigits) : text? i = some (.ofInt i) :=
  if_pos (Nat.lt_of_le_of_lt small (pow_lt_bound short))
