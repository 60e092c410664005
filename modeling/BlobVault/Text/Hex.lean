import BlobVault.Bytes
import BlobVault.Text.Blank
import BlobVault.Text.Quoted

/-! Octets in hexadecimal: two digits an octet, written in lower case and read in either. Around
the digits a reader allows blanks, and in front of them one `0x`. -/
namespace BlobVault.Hex

def writeOctet (b : UInt8) : Text := [.hexDigit (b.toNat / 16), .hexDigit (b.toNat % 16)]

/-- The hexadecimal text of octets, in lower case. -/
def write (b : Bytes) : Text := b.flatMap writeOctet

def digitValue? (c : CodePoint) : Option Nat :=
  let n := c.val
  if 0x30 ≤ n ∧ n ≤ 0x39 then some (n - 0x30)
  else if 0x61 ≤ n ∧ n ≤ 0x66 then some (n - 0x57)
  else if 0x41 ≤ n ∧ n ≤ 0x46 then some (n - 0x37)
  else none

/-- The octets of a text that holds nothing but pairs of digits. -/
def readDigits? : Text → Option Bytes
  | [] => some []
  | [_] => none
  | c :: d :: rest =>
    match digitValue? c, digitValue? d, readDigits? rest with
    | some hi, some lo, some b => some (.ofNat (16 * hi + lo) :: b)
    | _, _, _ => none

/-- Removes one leading `0x` or `0X`. -/
def stripPrefix : Text → Text
  | c :: d :: rest =>
    if c = '0' ∧ (d = 'x' ∨ d = 'X') then rest
    else c :: d :: rest
  | t => t

/-- The octets of a hexadecimal text between blanks. -/
def read? (t : Text) : Option Bytes := readDigits? (stripPrefix t.strip)

end BlobVault.Hex
