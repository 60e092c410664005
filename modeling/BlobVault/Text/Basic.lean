/-! Text as a list of code points. Surrogate code points may stand alone, so every value that a
reply, a file name or a command line can hold is a text, also one that UTF-8 cannot encode. -/
namespace BlobVault

/-- A Unicode code point, surrogates included. -/
abbrev CodePoint := Fin 0x110000

/-- Numerals are code points. -/
instance codeSpaceNeZero : @NeZero Nat .ofOfNat0 0x110000 := ⟨by decide⟩

abbrev Text := List CodePoint

namespace CodePoint

theorem char_lt (c : Char) : c.toNat < 0x110000 := by
  have h := c.valid
  simp only [UInt32.isValidChar, Nat.isValidChar] at h
  have e : c.toNat = c.val.toNat := rfl
  omega

def ofChar (c : Char) : CodePoint := ⟨c.toNat, char_lt c⟩

instance : Coe Char CodePoint := ⟨ofChar⟩

/-- The code point of a number below the end of the code space, and U+FFFD above it. -/
def ofNat (n : Nat) : CodePoint := if h : n < 0x110000 then ⟨n, h⟩ else 0xFFFD

/-- The halves of the pairs of UTF-16, which no encoding of text may hold alone. -/
def isSurrogate (c : CodePoint) : Bool := 0xD800 ≤ c.val && c.val ≤ 0xDFFF

def isHighSurrogate (c : CodePoint) : Bool := 0xD800 ≤ c.val && c.val ≤ 0xDBFF

def isLowSurrogate (c : CodePoint) : Bool := 0xDC00 ≤ c.val && c.val ≤ 0xDFFF

def isAsciiDigit (c : CodePoint) : Bool := 0x30 ≤ c.val && c.val ≤ 0x39

/-- Lower case for the letters `A` to `Z`; every other code point stays. -/
def lowerAscii (c : CodePoint) : CodePoint :=
  if 0x41 ≤ c.val && c.val ≤ 0x5A then ofNat (c.val + 32) else c

end CodePoint

namespace Text

def ofString (s : String) : Text := s.toList.map .ofChar

instance : Coe String Text := ⟨ofString⟩

/-- A number in decimal, without leading zeros. -/
def ofNat (n : Nat) : Text := (Nat.toDigits 10 n).map .ofChar

/-- An integer in decimal, negative ones after a minus sign. -/
def ofInt : Int → Text
  | .ofNat n => ofNat n
  | .negSucc n => '-' :: ofNat (n + 1)

/-- The pieces between the separators: one more than there are separators. -/
def pieces (separator : CodePoint) : Text → List Text
  | [] => [[]]
  | c :: rest =>
    if c = separator then [] :: pieces separator rest
    else match pieces separator rest with
      | [] => [[c]]
      | piece :: more => (c :: piece) :: more

/-- The texts one after the other, with the separator between neighbours. -/
def join (separator : Text) : List Text → Text
  | [] => []
  | [t] => t
  | t :: rest => t ++ separator ++ join separator rest

/-- Removes code points of a kind from the right end. -/
def dropEndWhile (p : CodePoint → Bool) (t : Text) : Text := (t.reverse.dropWhile p).reverse

def lowerAscii (t : Text) : Text := t.map .lowerAscii

/-- A code point that UTF-8 cannot encode is in the text. -/
def hasSurrogate (t : Text) : Bool := t.any CodePoint.isSurrogate

end Text

end BlobVault
