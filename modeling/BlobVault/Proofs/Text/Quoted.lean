import BlobVault.Proofs.Text.CodePoint
import BlobVault.Proofs.Text.Surrogate
import BlobVault.Text.Quoted

/-! A quoted text has an encoding: surrogates are not printable, so they are spelled out. -/
namespace BlobVault

theorem takeWhile_congr {l : List α} {p q : α → Bool} (same : ∀ x ∈ l, p x = q x) :
    l.takeWhile p = l.takeWhile q := by
  induction l with
  | nil => rfl
  | cons x l ih =>
    have here := same x List.mem_cons_self
    have later := ih fun y member => same y (List.mem_cons_of_mem x member)
    rw [List.takeWhile_cons, List.takeWhile_cons, here, later]

namespace CodePoint

/-- No run of printable code points begins or ends among the surrogates. -/
theorem printableBounds_apart : ∀ b ∈ printableBounds, b ≤ 0xD800 ∨ 0xE000 ≤ b := by
  have apart : printableBounds.all (fun b => b ≤ 0xD800 || 0xE000 ≤ b) = true := by decide +kernel
  simpa using apart

theorem isPrintable_of_surrogate {c : CodePoint} (surrogate : c.isSurrogate = true) :
    c.isPrintable = false := by
  simp only [isSurrogate, Bool.and_eq_true, decide_eq_true_eq] at surrogate
  have first : printableBounds.takeWhile (· ≤ c.val) = printableBounds.takeWhile (· ≤ 0xD800) := by
    refine takeWhile_congr fun b member => ?_
    have apart := printableBounds_apart b member
    rw [decide_eq_decide]
    omega
  have even : (printableBounds.takeWhile (· ≤ 0xD800)).length % 2 = 0 := by decide +kernel
  rw [isPrintable, if_neg (by omega), first, even]
  rfl

end CodePoint

namespace Text

theorem mark_eq (t : Text) : Quoted.mark t = Quoted.double ∨ Quoted.mark t = Quoted.single := by
  unfold Quoted.mark
  split
  · exact .inl rfl
  · exact .inr rfl

theorem hasSurrogate_quotedEscape {quote : CodePoint} (mark : quote.isSurrogate = false) (c : CodePoint) :
    (Quoted.escape quote c).hasSurrogate = false := by
  have spelled {lead : Text} (plain : lead.hasSurrogate = false) (width : Nat) :
      (lead ++ hexDigits width c.val).hasSurrogate = false := by
    rw [hasSurrogate_append, plain, hasSurrogate_hexDigits]
    rfl
  unfold Quoted.escape
  split
  · rename_i known
    rw [Bool.or_eq_true, decide_eq_true_eq, decide_eq_true_eq] at known
    have plain : c.isSurrogate = false := by
      rcases known with rfl | rfl
      · exact mark
      · rfl
    rw [hasSurrogate_cons, hasSurrogate_cons, plain]
    rfl
  iterate 3
    split
    · rfl
  split
  · rename_i printable
    cases surrogate : c.isSurrogate with
    | false =>
      rw [hasSurrogate_cons, surrogate]
      rfl
    | true =>
      rw [CodePoint.isPrintable_of_surrogate surrogate] at printable
      contradiction
  split
  · exact spelled rfl 2
  split
  · exact spelled rfl 4
  · exact spelled rfl 8

theorem hasSurrogate_quoted (t : Text) : t.quoted.hasSurrogate = false := by
  have mark : (Quoted.mark t).isSurrogate = false := by
    rcases mark_eq t with double | single
    · rw [double]
      rfl
    · rw [single]
      rfl
  have inner : hasSurrogate (t.flatMap (Quoted.escape (Quoted.mark t))) = false := by
    rw [hasSurrogate_flatMap, List.any_eq_false]
    intro c _
    simp [hasSurrogate_quotedEscape mark c]
  change hasSurrogate (Quoted.mark t :: (t.flatMap (Quoted.escape (Quoted.mark t)) ++ [Quoted.mark t])) = false
  rw [hasSurrogate_cons, hasSurrogate_append, hasSurrogate_cons, mark, inner]
  rfl

end Text
end BlobVault
