import BlobVault.Number.Binary64

/-! The decimal text of a binary64 value: the fewest digits that read back as the value and, of
those, the nearest. -/
namespace BlobVault.Binary64

/-- A decimal `digits * 10 ^ exponent`. -/
structure Decimal where
  digits : Nat
  exponent : Int

def Decimal.readsAs (d : Decimal) (magnitude : Nat) : Bool :=
  match ofDecimal false d.digits d.exponent with
  | .finite _ m => m.val == magnitude
  | _ => false

def exactDecimal (magnitude : Nat) : Decimal := ⟨units magnitude * Nat.pow 5 1074, -1074⟩

/-- The two neighbours of a decimal on the grid that keeps its leading digits and drops `dropped`,
the nearer one first; a tie goes to the even neighbour. -/
def Decimal.neighbours (d : Decimal) (dropped : Nat) : List Decimal :=
  let step := Nat.pow 10 dropped
  let below := d.digits / step
  let twice := 2 * (d.digits % step)
  let down : Decimal := ⟨below, d.exponent + dropped⟩
  let up : Decimal := ⟨below + 1, d.exponent + dropped⟩
  if twice < step ∨ (twice = step ∧ below % 2 = 0) then [down, up] else [up, down]

/-- Tries the grids of one digit more each, from `kept` digits up to seventeen. -/
def searchShortest (magnitude : Nat) (exact : Decimal) (length : Nat) :
    (tries : Nat) → (kept : Nat) → Decimal
  | 0, _ => exact
  | tries + 1, kept =>
    match (exact.neighbours (length - kept)).find? (·.readsAs magnitude) with
    | some d => d
    | none => searchShortest magnitude exact length tries (kept + 1)

def shortest (magnitude : Nat) : Decimal :=
  let exact := exactDecimal magnitude
  searchShortest magnitude exact (Nat.toDigits 10 exact.digits).length 17 1

/-- Positional notation is used while the leading digit stands for a power of ten from 10^-4 up to
10^15. -/
def positionalLeast : Int := -3

def positionalMost : Int := 16

/-- An exponent with its sign and at least two digits. -/
def exponentText (e : Int) : Text :=
  let digits := Text.ofNat e.natAbs
  (if e < 0 then '-' else '+') :: (if digits.length < 2 then '0' :: digits else digits)

/-- Significant digits with the point after the first `point` of them. A value without a fraction
keeps `.0` in positional notation. -/
def layOut (digits : Text) (point : Int) : Text :=
  if positionalLeast ≤ point ∧ point ≤ positionalMost then
    if point ≤ 0 then "0." ++ List.replicate point.natAbs ('0' : CodePoint) ++ digits
    else
      let whole := digits.take point.natAbs ++
        List.replicate (point.natAbs - digits.length) ('0' : CodePoint)
      let fraction : Text := digits.drop point.natAbs
      whole ++ "." ++ (if fraction = [] then Text.ofString "0" else fraction)
  else
    let fraction : Text := digits.drop 1
    let places : Text := if fraction = [] then [] else "." ++ fraction
    digits.take 1 ++ places ++ "e" ++ exponentText (point - 1)

def magnitudeText (magnitude : Nat) : Text :=
  if magnitude = 0 then "0.0"
  else
    let d := shortest magnitude
    let digits := Text.ofNat d.digits
    layOut (Text.dropEndWhile (· == '0') digits) (digits.length + d.exponent)

/-- The names that text gives to values which are not finite. -/
structure SpecialNames where
  nan : Text
  infinity : Text

def text (names : SpecialNames) : Binary64 → Text
  | .nan => names.nan
  | .infinite negative => (if negative then "-" else "") ++ names.infinity
  | .finite negative magnitude => (if negative then "-" else "") ++ magnitudeText magnitude.val

end BlobVault.Binary64
