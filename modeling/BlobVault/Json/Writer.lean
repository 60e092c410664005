import BlobVault.Json.Basic
import BlobVault.Text.Quoted

/-! The text of a JSON value, compact or indented, with the code points beyond ASCII as they are or
escaped as units of UTF-16. -/
namespace BlobVault.Json

/-- How a value is laid out: what separates items and what follows a name, the indentation of each
level if there is one, and whether everything outside printable ASCII is escaped. -/
structure Style where
  itemSeparator : Text
  nameSeparator : Text
  indent : Option Nat
  ascii : Bool

namespace Style

/-- On one line without blanks, and with text as it is. -/
def compact : Style := ⟨",", ":", none, false⟩

/-- An item a line, indented by two spaces a level, in ASCII. -/
def indented : Style := ⟨",", ": ", some 2, true⟩

end Style

/-- A unit of UTF-16 as a backslash, `u` and four digits. -/
def unitEscape (n : Nat) : Text := "\\u" ++ Text.hexDigits 4 n

/-- A code point as one unit or, beyond U+FFFF, as a pair of surrogates. -/
def utf16Escape (c : CodePoint) : Text :=
  if c.val < 0x10000 then unitEscape c.val
  else
    unitEscape (0xD800 + (c.val - 0x10000) / 0x400) ++
      unitEscape (0xDC00 + (c.val - 0x10000) % 0x400)

def escape (ascii : Bool) (c : CodePoint) : Text :=
  if c = '"' then "\\\""
  else if c = '\\' then "\\\\"
  else if c.val = 0x08 then "\\b"
  else if c.val = 0x09 then "\\t"
  else if c.val = 0x0A then "\\n"
  else if c.val = 0x0C then "\\f"
  else if c.val = 0x0D then "\\r"
  else if c.val < 0x20 ∨ (ascii = true ∧ 0x7E < c.val) then utf16Escape c
  else [c]

def writeText (ascii : Bool) (t : Text) : Text :=
  "\"" ++ t.flatMap (escape ascii) ++ "\""

def realNames : Binary64.SpecialNames := ⟨"NaN", "Infinity"⟩

def writeScalar (ascii : Bool) : Scalar → Text
  | .null => "null"
  | .truth true => "true"
  | .truth false => "false"
  | .integer value => .ofInt value
  | .real value => value.text realNames
  | .text value => writeText ascii value

/-- The line break before an item at a level of nesting, if items stand on lines of their own. -/
def Style.lineBreak (s : Style) (level : Nat) : Text :=
  match s.indent with
  | none => []
  | some width => "\n" ++ List.replicate (width * level) (' ' : CodePoint)

mutual
/-- The text of a value whose brackets stand at a level of nesting. -/
def writeAt (s : Style) (level : Nat) : Json → Text
  | .scalar value => writeScalar s.ascii value
  | .array [] => "[]"
  | .array (item :: rest) =>
    "[" ++ s.lineBreak (level + 1) ++ writeAt s (level + 1) item ++
      writeItems s (level + 1) rest ++ s.lineBreak level ++ "]"
  | .object [] => "\x7b\x7d"
  | .object ((name, value) :: rest) =>
    "\x7b" ++ s.lineBreak (level + 1) ++ writeText s.ascii name ++ s.nameSeparator ++
      writeAt s (level + 1) value ++ writeMembers s (level + 1) rest ++ s.lineBreak level ++
      "\x7d"

def writeItems (s : Style) (level : Nat) : List Json → Text
  | [] => []
  | item :: rest =>
    s.itemSeparator ++ s.lineBreak level ++ writeAt s level item ++ writeItems s level rest

def writeMembers (s : Style) (level : Nat) : List (Text × Json) → Text
  | [] => []
  | (name, value) :: rest =>
    s.itemSeparator ++ s.lineBreak level ++ writeText s.ascii name ++ s.nameSeparator ++
      writeAt s level value ++ writeMembers s level rest
end

def write (s : Style) (value : Json) : Text := value.writeAt s 0

end BlobVault.Json
