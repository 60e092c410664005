import BlobVault.Bytes

/-! The twisted Edwards curve -x² + y² = 1 + d x² y² over the integers modulo 2^255 - 19, with points
in extended coordinates. Coordinates are kept below the modulus. -/
namespace BlobVault.EdwardsCurve

def modulus : Nat := (1 <<< 255) - 19

/-- The prime order of the subgroup that the base point generates. -/
def subgroupOrder : Nat := (1 <<< 252) + 27742317777372353535851937790883648493

/-- The curve's parameter, -121665/121666. -/
def d : Nat := 37095705934669439343138083508754565189542113879843219016388785533085940283555

def mul (a b : Nat) : Nat := a * b % modulus

def plus (a b : Nat) : Nat := (a + b) % modulus

def minus (a b : Nat) : Nat := (a + (modulus - b)) % modulus

/-- A power whose exponent has at most `bits` binary digits, lowest digit first. -/
def powFrom : (bits : Nat) → (base exponent result : Nat) → Nat
  | 0, _, _, result => result
  | bits + 1, base, exponent, result =>
    powFrom bits (mul base base) (exponent / 2)
      (if exponent % 2 = 1 then mul result base else result)

def pow (base exponent : Nat) : Nat := powFrom 255 base exponent 1

/-- The inverse, by Fermat's little theorem; zero for zero. -/
def inverse (a : Nat) : Nat := pow a (modulus - 2)

/-- A square root of -1. -/
def imaginaryUnit : Nat := pow 2 ((modulus - 1) / 4)

/-- A point as quotients `x / z` and `y / z`, with `t / z` the product of the two. -/
structure Point where
  (x y z t : Nat)

namespace Point

def zero : Point := ⟨0, 1, 1, 0⟩

/-- The point whose second coordinate is 4/5 and whose first coordinate is even. -/
def base : Point :=
  let x := 15112221349535400772501151409588531511454012693041857206046113283949847762202
  let y := 46316835694926478169428394003475163141307993866256225615783033603165251855960
  ⟨x, y, 1, mul x y⟩

/-- The complete addition law. -/
def add (p q : Point) : Point :=
  let a := mul (minus p.y p.x) (minus q.y q.x)
  let b := mul (plus p.y p.x) (plus q.y q.x)
  let c := mul (mul (plus p.t p.t) q.t) d
  let e := mul (plus p.z p.z) q.z
  let (f, g, h, i) := (minus b a, minus e c, plus e c, plus b a)
  ⟨mul f g, mul h i, mul g h, mul f i⟩

def neg (p : Point) : Point := ⟨minus 0 p.x, p.y, p.z, minus 0 p.t⟩

/-- Adds the multiple of a point whose factor has at most `bits` binary digits to a sum. -/
def scaleFrom : (bits : Nat) → (factor : Nat) → (p sum : Point) → Point
  | 0, _, _, sum => sum
  | bits + 1, factor, p, sum =>
    scaleFrom bits (factor / 2) (p.add p) (if factor % 2 = 1 then sum.add p else sum)

/-- A multiple of a point, for factors below 2^256. -/
def scale (factor : Nat) (p : Point) : Point := scaleFrom 256 factor p zero

def isZero (p : Point) : Bool := p.x == 0 && p.y == p.z

/-- The order of the point divides the cofactor eight. -/
def isSmall (p : Point) : Bool := (p.scale 8).isZero

/-- The second coordinate in 255 bits, and the parity of the first one in the last bit. -/
def toBytes (p : Point) : Bytes :=
  let inverseZ := inverse p.z
  let x := mul p.x inverseZ
  let y := mul p.y inverseZ
  .ofNatLittle 32 (y + ((x % 2) <<< 255))

def sqrtRatio? (u v : Nat) : Option Nat :=
  let v3 := mul (mul v v) v
  let candidate := mul (mul u v3) (pow (mul u (mul (mul v3 v3) v)) ((modulus - 5) / 8))
  let square := mul v (mul candidate candidate)
  if square = u then some candidate
  else if square = minus 0 u then some (mul candidate imaginaryUnit)
  else none

/-- The point that octets encode. The second coordinate has to be below the modulus and to belong to a
point of the curve. -/
def ofBytes? (b : Bytes) : Option Point :=
  let n := Bytes.toNatLittle b
  let y := n % (1 <<< 255)
  let parity := n >>> 255
  if modulus ≤ y then none
  else
    let y2 := mul y y
    (sqrtRatio? (minus y2 1) (plus (mul d y2) 1)).map fun root =>
      let x := if root % 2 = parity then root else minus 0 root
      ⟨x, y, 1, mul x y⟩

end Point
end BlobVault.EdwardsCurve
