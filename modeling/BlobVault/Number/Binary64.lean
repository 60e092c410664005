import BlobVault.Text.Basic

/-! Binary floating-point numbers of 64 bits and the correctly rounded reading of decimals. The finite
magnitudes are numbered in increasing order, so a magnitude is its place on the grid, and all
rounding is exact arithmetic of natural numbers in units of 2^-1074. -/
namespace BlobVault

/-- The number of finite magnitudes: 2047 exponents of 2^52 fractions each. -/
def Binary64.magnitudeCount : Nat := 2047 <<< 52

/-- A binary64 value. All values that are not numbers are one. -/
inductive Binary64 where
  | nan
  | infinite (negative : Bool)
  | finite (negative : Bool) (magnitude : Fin Binary64.magnitudeCount)
  deriving DecidableEq

namespace Binary64

/-- A magnitude in units of 2^-1074. The lowest exponent has no hidden bit. -/
def units (magnitude : Nat) : Nat :=
  let exponent := magnitude >>> 52
  let fraction := magnitude % (1 <<< 52)
  if exponent = 0 then fraction else ((1 <<< 52) + fraction) <<< (exponent - 1)

/-- A quotient to the nearest integer, halves to the even neighbour. -/
def roundDiv (numerator denominator : Nat) : Nat :=
  let quotient := numerator / denominator
  let twice := 2 * (numerator % denominator)
  if twice < denominator ∨ (twice = denominator ∧ quotient % 2 = 0) then quotient
  else quotient + 1

/-- The place of the magnitude nearest to `numerator / denominator` units, on a grid without an upper
end. A quotient of more than 53 bits is cut to 53, and one that rounds up to a power of two is the
first place of the next exponent. -/
def nearest (numerator denominator : Nat) : Nat :=
  let shift := Nat.log2 (numerator / denominator) - 52
  (shift <<< 52) + roundDiv numerator (denominator <<< shift)

/-- The value nearest to `numerator / denominator` units; past the largest magnitude it is infinite. -/
def ofUnits (negative : Bool) (numerator denominator : Nat) : Binary64 :=
  let place := nearest numerator denominator
  if h : place < magnitudeCount then .finite negative ⟨place, h⟩ else .infinite negative

/-- The value nearest to `digits * 10 ^ exponent`. Decimals far outside the range are told by their
length alone. -/
def ofDecimal (negative : Bool) (digits : Nat) (exponent : Int) : Binary64 :=
  let length : Int := (Nat.toDigits 10 digits).length
  if digits = 0 ∨ length + exponent < -400 then .finite negative ⟨0, by decide⟩
  else if 400 < length + exponent then .infinite negative
  else match exponent with
    | .ofNat e => ofUnits negative ((digits * Nat.pow 10 e) <<< 1074) 1
    | .negSucc e => ofUnits negative (digits <<< 1074) (Nat.pow 10 (e + 1))

def isZero : Binary64 → Bool
  | .finite _ magnitude => magnitude.val == 0
  | _ => false

end Binary64
end BlobVault
