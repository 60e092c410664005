import BlobVault.Json.Reader
import BlobVault.Json.Writer
import BlobVault.Proofs.Text.Hex
import BlobVault.Proofs.Text.Surrogate

/-! Quoted texts read back. Escaping is done one code point at a time and so is reading, except that a
pair of surrogates is put together; a text in which no such pair stands comes back from either style. -/
namespace BlobVault

namespace Json

open Reader

def pieces (ascii : Bool) (c : CodePoint) : List Piece :=
  if c = '"' ∨ c = '\\' ∨ c.val ∈ [0x08, 0x09, 0x0A, 0x0C, 0x0D] then [.plain c]
  else if c.val < 0x20 ∨ (ascii = true ∧ 0x7E < c.val) then
    if c.val < 0x10000 then [.unit c.val]
    else [.unit (0xD800 + (c.val - 0x10000) / 0x400), .unit (0xDC00 + (c.val - 0x10000) % 0x400)]
  else [.plain c]

theorem pieces?_close (rest : Text) : pieces? (('"' : CodePoint) :: rest) = some ([], rest) := by
  rw [pieces?.eq_def]
  rfl

theorem pieces?_named {e c : CodePoint} (named : namedEscape? e = some c) (rest : Text) :
    pieces? (('\\' : CodePoint) :: e :: rest) =
      (pieces? rest).map fun (found, rest) => (.plain c :: found, rest) := by
  have noUnit : e ≠ 'u' := by
    rintro rfl
    cases named
  rw [pieces?.eq_def]
  simp only [show ('\\' : CodePoint) ≠ '"' by decide, if_false, if_true, noUnit, named]

theorem pieces?_plain {c : CodePoint} (quote : c ≠ '"') (escape : c ≠ '\\') (shown : 0x20 ≤ c.val)
    (rest : Text) :
    pieces? (c :: rest) = (pieces? rest).map fun (found, rest) => (.plain c :: found, rest) := by
  rw [pieces?.eq_def]
  simp only [quote, escape, if_false, Nat.not_lt.mpr shown]

theorem digitValue?_hexDigit {n : Nat} (small : n < 16) :
    Hex.digitValue? (.hexDigit n) = some n :=
  Hex.digitValue?_eq_some_iff.mpr ⟨small, Hex.lowerAscii_hexDigit small⟩

theorem pieces?_unitEscape {n : Nat} (small : n < 0x10000) (rest : Text) :
    pieces? (unitEscape n ++ rest) =
      (pieces? rest).map fun (found, rest) => (.unit n :: found, rest) := by
  have digits : unitEscape n ++ rest =
      ('\\' : CodePoint) :: ('u' : CodePoint) :: .hexDigit (n / 16 / 16 / 16 % 16) ::
        .hexDigit (n / 16 / 16 % 16) :: .hexDigit (n / 16 % 16) :: .hexDigit (n % 16) :: rest := rfl
  have value : unit? (.hexDigit (n / 16 / 16 / 16 % 16)) (.hexDigit (n / 16 / 16 % 16))
      (.hexDigit (n / 16 % 16)) (.hexDigit (n % 16)) = some n := by
    simp only [unit?, digitValue?_hexDigit (Nat.mod_lt _ (by decide : 0 < 16)), Option.some.injEq]
    omega
  rw [digits, pieces?.eq_def]
  simp only [show ('\\' : CodePoint) ≠ '"' by decide, if_false, if_true, value]

/-- The code points that are written by name. -/
theorem pieces_of_named {ascii : Bool} {c : CodePoint}
    (named : c = '"' ∨ c = '\\' ∨ c.val ∈ [0x08, 0x09, 0x0A, 0x0C, 0x0D]) :
    pieces ascii c = [.plain c] := by
  rw [pieces, if_pos named]

/-- A code point in quotes is read as its pieces. -/
theorem pieces?_escape (ascii : Bool) (c : CodePoint) (rest : Text) :
    pieces? (escape ascii c ++ rest) =
      (pieces? rest).map fun (found, rest) => (pieces ascii c ++ found, rest) := by
  unfold escape
  split
  · rename_i quote
    rw [pieces_of_named (.inl quote), quote]
    exact pieces?_named rfl rest
  split
  · rename_i escape
    rw [pieces_of_named (.inr (.inl escape)), escape]
    exact pieces?_named rfl rest
  split
  · rename_i control
    rw [pieces_of_named (by simp [control]), show c = 0x08 from Fin.ext control]
    exact pieces?_named rfl rest
  split
  · rename_i control
    rw [pieces_of_named (by simp [control]), show c = 0x09 from Fin.ext control]
    exact pieces?_named rfl rest
  split
  · rename_i control
    rw [pieces_of_named (by simp [control]), show c = 0x0A from Fin.ext control]
    exact pieces?_named rfl rest
  split
  · rename_i control
    rw [pieces_of_named (by simp [control]), show c = 0x0C from Fin.ext control]
    exact pieces?_named rfl rest
  split
  · rename_i control
    rw [pieces_of_named (by simp [control]), show c = 0x0D from Fin.ext control]
    exact pieces?_named rfl rest
  rename_i quote escape _ _ _ _ _
  have unnamed : ¬ (c = '"' ∨ c = '\\' ∨ c.val ∈ [0x08, 0x09, 0x0A, 0x0C, 0x0D]) := by simp [*]
  unfold pieces
  rw [if_neg unnamed]
  by_cases coded : c.val < 0x20 ∨ (ascii = true ∧ 0x7E < c.val)
  · have bound := c.isLt
    rw [if_pos coded, if_pos coded, utf16Escape]
    split
    · rename_i small
      exact pieces?_unitEscape small rest
    · rw [List.append_assoc, pieces?_unitEscape (by omega), pieces?_unitEscape (by omega)]
      cases pieces? rest <;> rfl
  · rw [if_neg coded, if_neg coded]
    exact pieces?_plain quote escape (by omega) rest

theorem pieces?_escaped (ascii : Bool) (t rest : Text) :
    pieces? (t.flatMap (escape ascii) ++ ('"' : CodePoint) :: rest) =
      some (t.flatMap (pieces ascii), rest) := by
  induction t with
  | nil => exact pieces?_close rest
  | cons c t ih =>
    rw [List.flatMap_cons, List.append_assoc, pieces?_escape, ih, List.flatMap_cons]
    rfl

/-- A unit stays alone unless it and the next one are a pair. -/
theorem assemble_unit {n : Nat} {rest : List Piece}
    (apart : ∀ m more, rest = .unit m :: more → (isHigh n && isLow m) = false) :
    assemble (.unit n :: rest) = .ofNat n :: assemble rest := by
  match rest with
  | [] => rfl
  | .plain d :: more => rfl
  | .unit m :: more =>
    rw [assemble, apart m more rfl]
    rfl

theorem assemble_pair {c : CodePoint} (wide : 0x10000 ≤ c.val) (rest : List Piece) :
    assemble (.unit (0xD800 + (c.val - 0x10000) / 0x400) ::
      .unit (0xDC00 + (c.val - 0x10000) % 0x400) :: rest) = c :: assemble rest := by
  have bound := c.isLt
  have paired : (isHigh (0xD800 + (c.val - 0x10000) / 0x400) &&
      isLow (0xDC00 + (c.val - 0x10000) % 0x400)) = true := by
    simp only [isHigh, isLow, Bool.and_eq_true, decide_eq_true_eq]
    omega
  rw [assemble, if_pos paired, pair, CodePoint.ofNat_val]
  omega

/-- A unit that a code point begins with is its own number or no low half. -/
theorem unit_of_pieces {ascii : Bool} {d : CodePoint} {m : Nat} {rest more : List Piece}
    (h : pieces ascii d ++ rest = .unit m :: more) : m = d.val ∨ isLow m = false := by
  have bound := d.isLt
  unfold pieces at h
  split at h
  · cases h
  split at h
  · split at h
    · cases h
      exact .inl rfl
    · cases h
      refine .inr ?_
      simp only [isLow, Bool.and_eq_false_iff, decide_eq_false_iff_not]
      omega
  · cases h

theorem assemble_pieces {ascii : Bool} {t : Text} (unpaired : ascii = true → t.Unpaired) :
    assemble (t.flatMap (pieces ascii)) = t := by
  induction t with
  | nil => rfl
  | cons c t ih =>
    have ih := ih fun escaped => (unpaired escaped).tail
    rw [List.flatMap_cons]
    nth_rewrite 1 [pieces]
    split
    · exact congrArg (c :: ·) ih
    split
    · rename_i coded
      split
      · rw [List.singleton_append, assemble_unit, ih, CodePoint.ofNat_val rfl]
        -- A low half after this unit would be the next code point, and the two are no pair.
        intro m more next
        rw [Bool.and_eq_false_iff]
        by_cases high : isHigh c.val = true
        · have escaped : ascii = true := by
            rcases coded with control | ⟨escaped, -⟩
            · simp only [isHigh, Bool.and_eq_true, decide_eq_true_eq] at high
              omega
            · exact escaped
          cases t with
          | nil => cases next
          | cons d t =>
            rcases unit_of_pieces (List.flatMap_cons ▸ next) with rfl | low
            · exact .inr ((unpaired escaped).rel high)
            · exact .inr low
        · exact .inl (Bool.not_eq_true _ ▸ high)
      · rename_i wide
        exact (assemble_pair (Nat.not_lt.mp wide) _).trans (congrArg (c :: ·) ih)
    · exact congrArg (c :: ·) ih

theorem writeText_append (ascii : Bool) (t rest : Text) :
    writeText ascii t ++ rest =
      ('"' : CodePoint) :: (t.flatMap (escape ascii) ++ ('"' : CodePoint) :: rest) := by
  rw [writeText, List.append_assoc, List.append_assoc]
  rfl

/-- A text in quotes reads back. -/
theorem text?_escaped {ascii : Bool} {t : Text} (unpaired : ascii = true → t.Unpaired) (rest : Text) :
    text? (t.flatMap (escape ascii) ++ ('"' : CodePoint) :: rest) = some (t, rest) := by
  rw [text?, pieces?_escaped, Option.map_some]
  simp only [assemble_pieces unpaired]

end Json
end BlobVault
