import BlobVault.Text.Printable

/-! The quoted form of a text, in which messages show a value. It is printable throughout, stands
between quotes, and no two texts share it. -/
namespace BlobVault

/-- The lower-case hexadecimal digit of a value below sixteen. -/
def CodePoint.hexDigit (n : Nat) : CodePoint :=
  if n < 10 then .ofNat (0x30 + n) else .ofNat (0x57 + n)

namespace Text

/-- The lowest `width` hexadecimal digits of a number, most significant first. -/
def hexDigits : (width : Nat) → Nat → Text
  | 0, _ => []
  | width + 1, n => hexDigits width (n / 16) ++ [.hexDigit (n % 16)]

namespace Quoted

def single : CodePoint := 0x27

def double : CodePoint := 0x22

/-- Single quotes, unless the text holds a single quote and no double quote. -/
def mark (t : Text) : CodePoint :=
  if t.contains single && !t.contains double then double else single

/-- One code point between `quote` marks: the mark and the backslash after a backslash, the common
controls by a letter, other unprintable code points by the fewest of 2, 4 or 8 digits. -/
def escape (quote c : CodePoint) : Text :=
  if c = quote || c = '\\' then ['\\', c]
  else if c = '\t' then "\\t"
  else if c = '\n' then "\\n"
  else if c = '\r' then "\\r"
  else if c.isPrintable then [c]
  else if c.val < 0x100 then "\\x" ++ hexDigits 2 c.val
  else if c.val < 0x10000 then "\\u" ++ hexDigits 4 c.val
  else "\\U" ++ hexDigits 8 c.val

end Quoted

/-- The text between quotes, escaped where it is not printable. -/
def quoted (t : Text) : Text :=
  let quote := Quoted.mark t
  quote :: t.flatMap (Quoted.escape quote) ++ [quote]

end Text
end BlobVault
