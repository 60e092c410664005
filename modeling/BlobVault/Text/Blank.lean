import BlobVault.Text.Basic

/-! Blank code points and the removal of blanks around a text. -/
namespace BlobVault

/-- A blank has the bidirectional class of a separator (paragraph, segment or white space) or is a
space separator: the ASCII controls from tab to carriage return and U+001C to U+001F, the space,
U+0085, and the spaces and line separators beyond ASCII. -/
def CodePoint.isBlank (c : CodePoint) : Bool :=
  let n := c.val
  (0x09 ≤ n && n ≤ 0x0D) || (0x1C ≤ n && n ≤ 0x20) || n == 0x85 || n == 0xA0 || n == 0x1680 ||
    (0x2000 ≤ n && n ≤ 0x200A) || n == 0x2028 || n == 0x2029 || n == 0x202F || n == 0x205F ||
    n == 0x3000

namespace Text

def dropBlanks (t : Text) : Text := t.dropWhile CodePoint.isBlank

/-- The text without the blanks before its first and after its last other code point. -/
def strip (t : Text) : Text := dropEndWhile CodePoint.isBlank (dropBlanks t)

end Text
end BlobVault
