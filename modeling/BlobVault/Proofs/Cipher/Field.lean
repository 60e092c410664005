import BlobVault.Cipher.Gcm
import Mathlib.Dynamics.PeriodicPts.Lemmas
import Mathlib.FieldTheory.Finite.Basic
import Mathlib.FieldTheory.IsAlgClosed.AlgebraicClosure

/-! Blocks multiply as the elements of a field. A block is a polynomial over the field of two elements, and
multiplying blocks multiplies their values at a root of the modulus. Squaring takes such a root through 128
different conjugates, so no polynomial of a lower degree vanishes there: blocks with the same value are the
same, and multiplying by a block other than zero can be undone. -/
namespace BlobVault.Cipher.Gcm

open Polynomial

def powers (x : Block) : Finset Nat := {i ∈ Finset.range 128 | x.getMsbD i = true}

/-- The value of a block, as a polynomial, at a point. -/
def valueAt {R : Type*} [CommRing R] (a : R) (x : Block) : R := ∑ i ∈ powers x, a ^ i

def IsRoot {R : Type*} [CommRing R] (a : R) : Prop := a ^ 128 = a ^ 7 + a ^ 2 + a + 1

section Value

variable {R : Type*} [CommRing R] {a : R}

theorem valueAt_eq (a : R) (x : Block) :
    valueAt a x = ∑ i ∈ Finset.range 128, if x.getMsbD i then a ^ i else 0 :=
  Finset.sum_filter ..

theorem valueAt_zero (a : R) : valueAt a 0 = 0 := by
  have none : powers 0 = ∅ := by decide
  rw [valueAt, none, Finset.sum_empty]

theorem valueAt_reduction (root : IsRoot a) : valueAt a reduction = a ^ 128 := by
  have known : powers reduction = {7, 2, 1, 0} := by decide
  rw [valueAt, known, root]
  simp [add_assoc]

theorem valueAt_shift (a : R) (v : Block) :
    valueAt a (v >>> 1) + (if v.getLsbD 0 then a ^ 128 else 0) = a * valueAt a v := by
  have last : v.getLsbD 0 = v.getMsbD 127 := by
    rw [BitVec.getLsbD_eq_getMsbD]
    rfl
  rw [valueAt_eq, Finset.sum_range_succ', valueAt_eq a v, Finset.sum_range_succ _ 127, mul_add,
    Finset.mul_sum, last]
  congr 1
  · rw [if_neg (by simp [BitVec.getMsbD_ushiftRight]), add_zero]
    refine Finset.sum_congr rfl fun i inside => ?_
    have bound : i + 1 < 128 := by
      rw [Finset.mem_range] at inside
      omega
    simp only [BitVec.getMsbD_ushiftRight, bound, mul_ite, mul_zero, ← pow_succ']
    simp
  · rw [mul_ite, mul_zero, ← pow_succ']

variable [CharP R 2]

theorem valueAt_xor (a : R) (x y : Block) : valueAt a (x ^^^ y) = valueAt a x + valueAt a y := by
  rw [valueAt_eq, valueAt_eq, valueAt_eq, ← Finset.sum_add_distrib]
  refine Finset.sum_congr rfl fun i _ => ?_
  rw [BitVec.getMsbD_xor]
  cases x.getMsbD i <;> cases y.getMsbD i <;> simp [CharTwo.add_self_eq_zero]

theorem valueAt_timesX (root : IsRoot a) (v : Block) : valueAt a (timesX v) = a * valueAt a v := by
  rw [← valueAt_shift, timesX]
  split
  · rw [valueAt_xor, valueAt_reduction root]
  · rw [add_zero]

/-- What is added by the last powers of the first factor, by induction on their number. -/
theorem valueAt_mulFrom (root : IsRoot a) (x : Block) (count : Nat) (z v : Block) :
    valueAt a (mulFrom x count z v) =
      valueAt a z +
        (∑ i ∈ Finset.range count, if x.getLsbD (count - 1 - i) then a ^ i else 0) * valueAt a v := by
  induction count generalizing z v with
  | zero => simp [mulFrom]
  | succ count ih =>
    have shifted : (∑ i ∈ Finset.range count, if x.getLsbD (count + 1 - 1 - (i + 1)) then a ^ (i + 1) else 0) =
        a * ∑ i ∈ Finset.range count, if x.getLsbD (count - 1 - i) then a ^ i else 0 := by
      rw [Finset.mul_sum]
      refine Finset.sum_congr rfl fun i _ => ?_
      rw [show count + 1 - 1 - (i + 1) = count - 1 - i by omega, mul_ite, mul_zero, pow_succ']
    have added : valueAt a (if x.getLsbD count then z ^^^ v else z) =
        valueAt a z + (if x.getLsbD count then 1 else 0) * valueAt a v := by
      split
      · rw [valueAt_xor, one_mul]
      · rw [zero_mul, add_zero]
    rw [mulFrom, ih, valueAt_timesX root, added, Finset.sum_range_succ', shifted, pow_zero,
      Nat.add_sub_cancel, Nat.sub_zero]
    ring

theorem valueAt_mul (root : IsRoot a) (x y : Block) :
    valueAt a (mul x y) = valueAt a x * valueAt a y := by
  have reversed : valueAt a x = ∑ i ∈ Finset.range 128, if x.getLsbD (128 - 1 - i) then a ^ i else 0 := by
    rw [valueAt_eq]
    refine Finset.sum_congr rfl fun i inside => ?_
    rw [BitVec.getMsbD_eq_getLsbD, decide_eq_true (Finset.mem_range.mp inside), Bool.true_and]
  rw [mul, valueAt_mulFrom root, valueAt_zero, zero_add, reversed]

end Value

/-! The conjugates of a root. -/

def one : Block := 0x80000000000000000000000000000000

def indeterminate : Block := 0x40000000000000000000000000000000

/-- The indeterminate, squared 64 times. -/
def halfway : Block := 0x6f9945a9e519a7229d4c1ad657f8a686

/-- What the difference of the indeterminate and its square halfway is multiplied by to give one. -/
def halfwayInverse : Block := 0x180da934bf53158251c13dbb149f5279

def square (x : Block) : Block := mul x x

theorem square_indeterminate : square^[64] indeterminate = halfway := by decide +kernel

theorem square_halfway : square^[64] halfway = indeterminate := by decide +kernel

theorem mul_halfwayInverse : mul halfwayInverse (halfway ^^^ indeterminate) = one := by decide +kernel

theorem valueAt_indeterminate {R : Type*} [CommRing R] (a : R) : valueAt a indeterminate = a := by
  have known : powers indeterminate = {1} := by decide
  rw [valueAt, known, Finset.sum_singleton, pow_one]

theorem valueAt_one {R : Type*} [CommRing R] (a : R) : valueAt a one = 1 := by
  have known : powers one = {0} := by decide
  rw [valueAt, known, Finset.sum_singleton, pow_zero]

section Conjugates

variable {K : Type*} [Field K] [CharP K 2] {a : K}

theorem valueAt_squares (root : IsRoot a) (x : Block) (count : Nat) :
    valueAt a (square^[count] x) = (· ^ 2)^[count] (valueAt a x) := by
  have step : Function.Semiconj (valueAt a) square (· ^ 2) := by
    intro x
    exact (valueAt_mul root x x).trans (pow_two _).symm
  exact step.iterate_right count x

theorem valueAt_halfway (root : IsRoot a) : valueAt a halfway = (· ^ 2)^[64] a := by
  rw [← square_indeterminate, valueAt_squares root, valueAt_indeterminate]

/-- A root comes back to itself after 128 squares, but not after half of them. -/
theorem minimalPeriod_square (root : IsRoot a) : Function.minimalPeriod (· ^ 2) a = 128 := by
  have back : Function.IsPeriodicPt (· ^ 2) (2 ^ (6 + 1)) a := by
    change (· ^ 2)^[64 + 64] a = a
    rw [Function.iterate_add_apply, ← valueAt_halfway root, ← valueAt_squares root, square_halfway,
      valueAt_indeterminate]
  have away : ¬ Function.IsPeriodicPt (· ^ 2) (2 ^ 6) a := by
    intro early
    have same : valueAt a halfway = a := (valueAt_halfway root).trans early
    have inverse := congrArg (valueAt a) mul_halfwayInverse
    rw [valueAt_mul root, valueAt_xor, same, valueAt_indeterminate, CharTwo.add_self_eq_zero, mul_zero,
      valueAt_one] at inverse
    exact zero_ne_one inverse
  -- The period divides 128 but not 64.
  exact Function.minimalPeriod_eq_prime_pow away back

def conjugates [DecidableEq K] (a : K) : Finset K :=
  (Finset.range 128).image fun count => (· ^ 2)^[count] a

theorem card_conjugates [DecidableEq K] (root : IsRoot a) : (conjugates a).card = 128 := by
  rw [conjugates, Finset.card_image_of_injOn, Finset.card_range]
  rw [Finset.coe_range, ← minimalPeriod_square root]
  exact Function.iterate_injOn_Iio_minimalPeriod

end Conjugates

section Roots

variable {K : Type*} [Field K] [Algebra (ZMod 2) K] {a : K}

/-- A polynomial that vanishes at a point vanishes at its squares. -/
theorem aeval_squares {p : (ZMod 2)[X]} (vanishes : aeval a p = 0) (count : Nat) :
    aeval ((· ^ 2)^[count] a) p = 0 := by
  induction count with
  | zero => exact vanishes
  | succ count ih =>
    have squared : FiniteField.frobeniusAlgHom (ZMod 2) K ((· ^ 2)^[count] a) = (· ^ 2)^[count + 1] a := by
      rw [Function.iterate_succ_apply', FiniteField.coe_frobeniusAlgHom, ZMod.card]
    rw [← squared, aeval_algHom_apply, ih, map_zero]

/-- No polynomial below the degree of the modulus vanishes at a root of it. -/
theorem le_natDegree_of_vanishes [CharP K 2] (root : IsRoot a) {p : (ZMod 2)[X]} (nonzero : p ≠ 0)
    (vanishes : aeval a p = 0) : 128 ≤ p.natDegree := by
  classical
  -- With the root all its conjugates are roots, and there are no more roots than the degree.
  have roots : (conjugates a).val ⊆ (p.map (algebraMap (ZMod 2) K)).roots := by
    intro b member
    obtain ⟨count, -, rfl⟩ := Finset.mem_image.mp (Finset.mem_val.mp member)
    rw [mem_roots_map nonzero, ← aeval_def]
    exact aeval_squares vanishes count
  calc 128 = (conjugates a).card := (card_conjugates root).symm
    _ ≤ (p.map (algebraMap (ZMod 2) K)).natDegree := card_le_degree_of_subset_roots roots
    _ = p.natDegree := natDegree_map _

theorem aeval_valueAt (x : Block) : aeval a (valueAt (X : (ZMod 2)[X]) x) = valueAt a x := by
  simp only [valueAt, map_sum, map_pow, aeval_X]

theorem natDegree_valueAt_lt (x : Block) : (valueAt (X : (ZMod 2)[X]) x).natDegree < 128 := by
  rw [Nat.lt_iff_le_pred (by decide)]
  apply natDegree_sum_le_of_forall_le
  intro i member
  have bound := Finset.mem_range.mp (Finset.mem_filter.mp member).1
  rw [natDegree_X_pow]
  exact Nat.le_pred_of_lt bound

theorem coeff_valueAt (x : Block) {i : Nat} (small : i < 128) :
    (valueAt (X : (ZMod 2)[X]) x).coeff i = if x.getMsbD i then 1 else 0 := by
  simp [valueAt, powers, coeff_X_pow, small]

/-- A block whose value at a root is zero is zero. -/
theorem eq_zero_of_valueAt [CharP K 2] (root : IsRoot a) {x : Block} (vanishes : valueAt a x = 0) : x = 0 := by
  have zero : valueAt (X : (ZMod 2)[X]) x = 0 := by
    by_contra nonzero
    rw [← aeval_valueAt] at vanishes
    have high := le_natDegree_of_vanishes root nonzero vanishes
    have low := natDegree_valueAt_lt x
    omega
  refine BitVec.eq_of_getMsbD_eq fun i small => ?_
  have bit := coeff_valueAt x small
  rw [zero, coeff_zero] at bit
  simpa using bit

end Roots

theorem exists_root : ∃ a : AlgebraicClosure (ZMod 2), IsRoot a := by
  let modulus : (ZMod 2)[X] := X ^ 128 + X ^ 7 + X ^ 2 + X + 1
  have degree : modulus.degree = 128 := by
    unfold modulus
    compute_degree!
  obtain ⟨a, vanishes⟩ := IsAlgClosed.exists_aeval_eq_zero (AlgebraicClosure (ZMod 2)) modulus
    (by rw [degree]; decide)
  simp only [modulus, map_add, map_pow, aeval_X, map_one, add_assoc] at vanishes
  refine ⟨a, ?_⟩
  rw [IsRoot, CharTwo.add_eq_zero.mp vanishes]
  ring

/-- Multiplying by a block other than zero can be undone. -/
theorem mul_left_injective {h : Block} (nonzero : h ≠ 0) : Function.Injective (mul · h) := by
  obtain ⟨a, root⟩ := exists_root
  intro x y same
  have factor : valueAt a h ≠ 0 := fun vanishes => nonzero (eq_zero_of_valueAt root vanishes)
  have values : valueAt a x = valueAt a y := by
    apply mul_right_cancel₀ factor
    rw [← valueAt_mul root, ← valueAt_mul root]
    exact congrArg (valueAt a) same
  have difference : x ^^^ y = 0 := by
    apply eq_zero_of_valueAt root
    rw [valueAt_xor, values, CharTwo.add_self_eq_zero]
  exact BitVec.xor_eq_zero_iff.mp difference

end BlobVault.Cipher.Gcm
