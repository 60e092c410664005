import BlobVault.Text.Blank
import BlobVault.Text.DecimalDigit

/-! Integers in decimal. Reading admits blanks around the number, a sign, the digits of every script
and single underscores between digits; both directions have a limit on the number of digits. -/
namespace BlobVault.Integer

/-- The most decimal digits that an integer may have in a text. -/
def maxDigits : Nat := 4300

/-- The least natural number with more digits than that. -/
def bound : Nat := Nat.pow 10 maxDigits

/-- The decimal text of an integer, if it is within the limit. -/
def text? (i : Int) : Option Text :=
  if i.natAbs < bound then some (Text.ofInt i) else none

inductive Fault where
  | malformed
  | tooManyDigits (count : Nat)

/-- Blanks around a number. The separators U+001C to U+001F are not among them. -/
def isBlank (c : CodePoint) : Bool := c.isBlank && !(0x1C ≤ c.val && c.val ≤ 0x1F)

def underscore : CodePoint := '_'

def isDigitOrUnderscore (c : CodePoint) : Bool := c.digitValue?.isSome || c == underscore

/-- Every underscore stands between two digits. -/
def wellGrouped (run : Text) : Bool :=
  (Text.pieces underscore run).all (!·.isEmpty)

def magnitude (run : Text) : Nat :=
  (run.filterMap CodePoint.digitValue?).foldl (fun n d => 10 * n + d) 0

/-- Splits an optional sign off, which is `true` for minus. -/
def splitSign : Text → Bool × Text
  | [] => (false, [])
  | c :: rest =>
    if c = '-' then (true, rest)
    else if c = '+' then (false, rest)
    else (false, c :: rest)

/-- The integer that a text writes. Too many digits are found before what follows the digits. -/
def read (t : Text) : Except Fault Int :=
  let (negative, body) := splitSign (t.dropWhile isBlank)
  let run := body.takeWhile isDigitOrUnderscore
  let count := (run.filter (· != underscore)).length
  if !wellGrouped run then .error .malformed
  else if maxDigits < count then .error (.tooManyDigits count)
  else if !(body.drop run.length).all isBlank then .error .malformed
  else .ok (if negative then -(magnitude run : Int) else magnitude run)

end BlobVault.Integer
