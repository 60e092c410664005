import BlobVault.Bytes
import Mathlib.Algebra.Group.Nat.Defs
import Mathlib.Tactic.ByContra

/-! Strings of octets. The number of a string determines the octets of a known length, a string in pieces is
cut again where pieces were joined, and two strings that differ within a range agree before and behind it. -/
namespace BlobVault

namespace Bytes

theorem toNatBig_eq (b : Bytes) : toNatBig b = toNatLittle b.reverse := by
  rw [toNatBig, toNatLittle, List.foldr_reverse]
  congr 1
  funext n x
  omega

theorem toNatLittle_lt (b : Bytes) : toNatLittle b < 256 ^ b.length := by
  induction b with
  | nil => decide
  | cons x b ih =>
    have bound := x.toNat_lt
    change x.toNat + 256 * toNatLittle b < 256 ^ (b.length + 1)
    rw [Nat.pow_succ]
    omega

theorem toNatBig_lt (b : Bytes) : toNatBig b < 256 ^ b.length := by
  rw [toNatBig_eq, ← b.length_reverse]
  exact toNatLittle_lt b.reverse

theorem ofNatLittle_toNatLittle (b : Bytes) : ofNatLittle b.length (toNatLittle b) = b := by
  induction b with
  | nil => rfl
  | cons x b ih =>
    have bound := x.toNat_lt
    change UInt8.ofNat (x.toNat + 256 * toNatLittle b) ::
      ofNatLittle b.length ((x.toNat + 256 * toNatLittle b) / 256) = x :: b
    have lowest : UInt8.ofNat (x.toNat + 256 * toNatLittle b) = x := by
      apply UInt8.toNat_inj.mp
      rw [UInt8.toNat_ofNat']
      omega
    rw [lowest, show (x.toNat + 256 * toNatLittle b) / 256 = toNatLittle b by omega, ih]

theorem ofNatBig_toNatBig (b : Bytes) : ofNatBig b.length (toNatBig b) = b := by
  rw [ofNatBig, toNatBig_eq, ← b.length_reverse, ofNatLittle_toNatLittle, List.reverse_reverse]

theorem toNatLittle_ofNatLittle (width n : Nat) :
    toNatLittle (ofNatLittle width n) = n % 256 ^ width := by
  induction width generalizing n with
  | zero => simp [ofNatLittle, toNatLittle, Nat.mod_one]
  | succ width ih =>
    change (UInt8.ofNat n).toNat + 256 * toNatLittle (ofNatLittle width (n / 256)) = _
    have more : 256 ^ (width + 1) = 256 * 256 ^ width := Nat.pow_succ'
    rw [ih, UInt8.toNat_ofNat', more, Nat.mod_mul]

theorem toNatBig_ofNatBig (width n : Nat) : toNatBig (ofNatBig width n) = n % 256 ^ width := by
  rw [toNatBig_eq, ofNatBig, List.reverse_reverse, toNatLittle_ofNatLittle]

/-- Strings of one length that differ, and only at places from `start` up to `stop`. -/
structure DiffersWithin (start stop : Nat) (b other : Bytes) : Prop where
  length : other.length = b.length
  differs : other ≠ b
  places : ∀ i, other[i]? ≠ b[i]? → start ≤ i ∧ i < stop

def flip (place bit : Nat) (b : Bytes) : Bytes := b.modify place (· ^^^ .ofNat (2 ^ bit))

namespace DiffersWithin

variable {start stop : Nat} {b c : Bytes}

theorem take_eq (changed : DiffersWithin start stop b c) : c.take start = b.take start := by
  apply List.ext_getElem?
  intro i
  rw [List.getElem?_take, List.getElem?_take]
  split
  · by_contra other
    have inside := changed.places i other
    omega
  · rfl

theorem drop_eq (changed : DiffersWithin start stop b c) : c.drop stop = b.drop stop := by
  apply List.ext_getElem?
  intro i
  rw [List.getElem?_drop, List.getElem?_drop]
  by_contra other
  have inside := changed.places (stop + i) other
  omega

/-- A wider range holds the differences of a narrower one. -/
theorem mono (changed : DiffersWithin start stop b c) {first last : Nat} (before : first ≤ start)
    (beyond : stop ≤ last) : DiffersWithin first last b c := by
  refine ⟨changed.length, changed.differs, fun i other => ?_⟩
  have place := changed.places i other
  omega

/-- What differs only in its beginning differs in the same places when the end is cut off. -/
theorem take (changed : DiffersWithin start stop b c) {size : Nat} (beyond : stop ≤ size) :
    DiffersWithin start stop (b.take size) (c.take size) := by
  constructor
  case length => rw [List.length_take, List.length_take, changed.length]
  case differs =>
    intro same
    have cut := congrArg (List.drop (size - stop)) changed.drop_eq
    rw [List.drop_drop, List.drop_drop, Nat.add_sub_cancel' beyond] at cut
    apply changed.differs
    rw [← List.take_append_drop size c, same, cut, List.take_append_drop]
  case places =>
    intro i other
    rw [List.getElem?_take, List.getElem?_take] at other
    split at other
    · exact changed.places i other
    · contradiction

/-- Two strings that differ within a range are the same before it and behind it. -/
theorem split (changed : DiffersWithin start stop b c) (inside : stop ≤ b.length) :
    ∃ front first second back, b = front ++ (first ++ back) ∧ c = front ++ (second ++ back) ∧
      front.length = start ∧ first.length = stop - start ∧ second.length = stop - start ∧
      first ≠ second := by
  have ordered : start ≤ stop := by
    by_contra crossed
    apply changed.differs
    apply List.ext_getElem?
    intro i
    by_contra other
    have place := changed.places i other
    omega
  have length := changed.length
  have whole (d : Bytes) : d = d.take start ++ ((d.drop start).take (stop - start) ++ d.drop stop) := by
    have rest : (d.drop start).drop (stop - start) = d.drop stop := by
      rw [List.drop_drop, Nat.add_sub_cancel' ordered]
    rw [← rest, List.take_append_drop, List.take_append_drop]
  refine ⟨b.take start, (b.drop start).take (stop - start), (c.drop start).take (stop - start), b.drop stop,
    whole b, ?_, ?_, ?_, ?_, ?_⟩
  · rw [← changed.take_eq, ← changed.drop_eq]
    exact whole c
  · rw [List.length_take]
    omega
  · rw [List.length_take, List.length_drop]
    omega
  · rw [List.length_take, List.length_drop]
    omega
  · intro same
    apply changed.differs
    rw [whole c, ← same, changed.take_eq, changed.drop_eq, ← whole b]

/-- A flipped bit makes a difference at its place. -/
theorem flip {place bit : Nat} (inside : place < b.length) (small : bit < 8) :
    DiffersWithin place (place + 1) b (b.flip place bit) := by
  have mask : ∀ bit < 8, UInt8.ofNat (2 ^ bit) ≠ 0 := by decide
  have changed (x : UInt8) : x ^^^ .ofNat (2 ^ bit) ≠ x := by
    intro same
    have cancelled := congrArg (x ^^^ ·) same
    rw [← UInt8.xor_assoc, UInt8.xor_self, UInt8.zero_xor] at cancelled
    exact mask bit small cancelled
  constructor
  case length => exact List.length_modify ..
  case differs =>
    intro same
    have here := congrArg (·[place]?) same
    rw [Bytes.flip, List.getElem?_modify_eq, List.getElem?_eq_getElem inside] at here
    exact changed _ (Option.some.inj here)
  case places =>
    intro i other
    by_cases here : place = i
    · omega
    · rw [Bytes.flip, List.getElem?_modify_ne _ _ here] at other
      contradiction

end DiffersWithin
end Bytes

/-! A list in pieces. -/

variable {α : Type} {size : Nat}

theorem length_drop_cons_le (positive : 0 < size) (x : α) (l : List α) :
    ((x :: l).drop size).length ≤ l.length := by
  rw [List.length_drop, List.length_cons]
  omega

/-- Every bound that is not too small gives the same pieces, by induction on the first. -/
theorem chunksUpTo_congr (positive : 0 < size) {bound other : Nat} {l : List α} (first : l.length ≤ bound)
    (second : l.length ≤ other) : chunksUpTo size bound l = chunksUpTo size other l := by
  induction bound generalizing l other with
  | zero =>
    obtain rfl := List.length_eq_zero_iff.mp (Nat.le_zero.mp first)
    cases other <;> rfl
  | succ bound ih =>
    cases other with
    | zero =>
      obtain rfl := List.length_eq_zero_iff.mp (Nat.le_zero.mp second)
      rfl
    | succ other =>
      cases l with
      | nil => rfl
      | cons x l =>
        have shorter := length_drop_cons_le positive x l
        rw [List.length_cons] at first second
        have rest : chunksUpTo size bound ((x :: l).drop size) = chunksUpTo size other ((x :: l).drop size) :=
          ih (by omega) (by omega)
        simp only [chunksUpTo, rest]

theorem chunks_of_ne_nil (positive : 0 < size) {l : List α} (some : l ≠ []) :
    chunks size l = l.take size :: chunks size (l.drop size) := by
  cases l with
  | nil => contradiction
  | cons x l =>
    rw [chunks, List.length_cons, chunksUpTo, List.isEmpty_cons, if_neg Bool.false_ne_true,
      chunksUpTo_congr positive (length_drop_cons_le positive x l) (Nat.le_refl _), chunks]

/-- Whole pieces in front stay the pieces that they are, by induction on their number. -/
theorem chunks_append (positive : 0 < size) {count : Nat} {front : List α}
    (whole : front.length = size * count) (rest : List α) :
    chunks size (front ++ rest) = chunks size front ++ chunks size rest := by
  induction count generalizing front with
  | zero =>
    obtain rfl := List.length_eq_zero_iff.mp whole
    rfl
  | succ count ih =>
    have long : size ≤ front.length := by
      rw [whole, Nat.mul_succ]
      omega
    have some : front ≠ [] := List.ne_nil_of_length_pos (by omega)
    have cut : (front.drop size).length = size * count := by
      rw [List.length_drop, whole, Nat.mul_succ, Nat.add_sub_cancel]
    rw [chunks_of_ne_nil positive (List.append_ne_nil_of_left_ne_nil some rest), chunks_of_ne_nil positive some,
      List.take_append_of_le_length long, List.drop_append_of_le_length long, ih cut, List.cons_append]

/-- One piece behind whole pieces: a whole one, or the last one. -/
theorem chunks_split (positive : 0 < size) {count : Nat} {front piece back : List α}
    (whole : front.length = size * count) (some : piece ≠ []) (short : piece.length ≤ size)
    (fits : piece.length = size ∨ back = []) :
    chunks size (front ++ (piece ++ back)) = chunks size front ++ piece :: chunks size back := by
  have cut : (piece ++ back).take size = piece ∧ (piece ++ back).drop size = back := by
    rcases fits with rfl | rfl
    · exact ⟨List.take_left, List.drop_left⟩
    · rw [List.append_nil, List.take_of_length_le short, List.drop_of_length_le short]
      exact ⟨rfl, rfl⟩
  rw [chunks_append positive whole, chunks_of_ne_nil positive (List.append_ne_nil_of_left_ne_nil some back),
    cut.1, cut.2]

end BlobVault
