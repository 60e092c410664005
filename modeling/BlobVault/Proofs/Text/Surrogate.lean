import BlobVault.Proofs.Text.CodePoint
import BlobVault.Text.Hex
import Mathlib.Data.List.Chain

/-! Surrogates in a text: where its parts have none, it has none, and where it has none, no two of them are
a pair. Digits are no surrogates. -/
namespace BlobVault

theorem CodePoint.halves_of_plain {c : CodePoint} (plain : c.isSurrogate = false) :
    c.isHighSurrogate = false ∧ c.isLowSurrogate = false := by
  simp only [CodePoint.isSurrogate, CodePoint.isHighSurrogate, CodePoint.isLowSurrogate,
    Bool.and_eq_false_iff, decide_eq_false_iff_not] at plain ⊢
  omega

namespace Text

/-- No high surrogate is directly followed by a low one. -/
def Unpaired (t : Text) : Prop :=
  t.IsChain fun c d => c.isHighSurrogate = true → d.isLowSurrogate = false

theorem hasSurrogate_append (s t : Text) : hasSurrogate (s ++ t) = (s.hasSurrogate || t.hasSurrogate) :=
  List.any_append

theorem hasSurrogate_cons (c : CodePoint) (t : Text) :
    hasSurrogate (c :: t) = (c.isSurrogate || t.hasSurrogate) :=
  List.any_cons

theorem hasSurrogate_flatMap (items : List α) (write : α → Text) :
    hasSurrogate (items.flatMap write) = items.any fun item => (write item).hasSurrogate :=
  List.any_flatMap

theorem hasSurrogate_of_small {t : Text} (small : ∀ c ∈ t, c.val < 0xD800) : t.hasSurrogate = false := by
  rw [hasSurrogate, List.any_eq_false]
  intro c member
  have bound := small c member
  simp only [CodePoint.isSurrogate, Bool.and_eq_true, decide_eq_true_eq]
  omega

theorem plain_of_subset {s t : Text} (subset : s ⊆ t) (plain : t.hasSurrogate = false) :
    s.hasSurrogate = false := by
  rw [hasSurrogate, List.any_eq_false] at plain ⊢
  exact fun c member => plain c (subset member)

theorem hasSurrogate_join {separator : Text} (plain : separator.hasSurrogate = false) {parts : List Text}
    (each : ∀ part ∈ parts, part.hasSurrogate = false) : (join separator parts).hasSurrogate = false := by
  match parts with
  | [] => rfl
  | [part] => exact each part List.mem_cons_self
  | part :: next :: rest =>
    have later := hasSurrogate_join plain fun other member => each other (List.mem_cons_of_mem part member)
    rw [join, hasSurrogate_append, hasSurrogate_append, each part List.mem_cons_self, plain, later]
    · rfl
    · exact List.cons_ne_nil next rest

theorem plain_of_cons {c : CodePoint} {t : Text} (plain : hasSurrogate (c :: t) = false) :
    c.isSurrogate = false ∧ t.hasSurrogate = false := by
  rw [hasSurrogate_cons] at plain
  exact Bool.or_eq_false_iff.mp plain

theorem unpaired_cons {c : CodePoint} {t : Text} (apart : ∀ d ∈ t.head?, c.isHighSurrogate = true →
    d.isLowSurrogate = false) (unpaired : t.Unpaired) : Unpaired (c :: t) :=
  List.isChain_cons.mpr ⟨apart, unpaired⟩

theorem unpaired_of_plain {t : Text} (plain : t.hasSurrogate = false) : t.Unpaired := by
  induction t with
  | nil => exact .nil
  | cons c t ih =>
    obtain ⟨first, later⟩ := plain_of_cons plain
    refine unpaired_cons (fun d _ high => ?_) (ih later)
    rw [(CodePoint.halves_of_plain first).1] at high
    contradiction

theorem isSurrogate_hexDigit {n : Nat} (small : n < 16) : (CodePoint.hexDigit n).isSurrogate = false := by
  have value := CodePoint.val_hexDigit small
  simp only [CodePoint.isSurrogate, Bool.and_eq_false_iff, decide_eq_false_iff_not]
  split at value <;> omega

theorem hasSurrogate_hexDigits (width n : Nat) : (hexDigits width n).hasSurrogate = false := by
  induction width generalizing n with
  | zero => rfl
  | succ width ih =>
    have digit := isSurrogate_hexDigit (Nat.mod_lt n (by decide : 0 < 16))
    rw [hexDigits, hasSurrogate_append, ih, hasSurrogate_cons, digit]
    rfl

end Text

theorem Hex.hasSurrogate_write (b : Bytes) : (write b).hasSurrogate = false := by
  have octet (x : UInt8) : (writeOctet x).hasSurrogate = false := by
    have bound := x.toNat_lt
    rw [writeOctet, Text.hasSurrogate_cons, Text.hasSurrogate_cons, Text.isSurrogate_hexDigit (by omega),
      Text.isSurrogate_hexDigit (by omega)]
    rfl
  rw [write, Text.hasSurrogate_flatMap, List.any_eq_false]
  intro x _
  rw [octet x]
  exact Bool.false_ne_true

end BlobVault
