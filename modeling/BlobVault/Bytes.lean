/-! Strings of octets, the numbers that they write in base 256, and their division into pieces. -/
namespace BlobVault

abbrev Bytes := List UInt8

namespace Bytes

/-- The number whose digits in base 256 are the octets, first octet most significant. -/
def toNatBig (b : Bytes) : Nat := b.foldl (fun n x => n * 256 + x.toNat) 0

/-- The number whose digits in base 256 are the octets, first octet least significant. -/
def toNatLittle (b : Bytes) : Nat := b.foldr (fun x n => x.toNat + 256 * n) 0

/-- The lowest `width` base-256 digits of a number, least significant first. -/
def ofNatLittle : (width : Nat) → Nat → Bytes
  | 0, _ => []
  | width + 1, n => UInt8.ofNat n :: ofNatLittle width (n / 256)

/-- The lowest `width` base-256 digits of a number, most significant first. -/
def ofNatBig (width n : Nat) : Bytes := (ofNatLittle width n).reverse

end Bytes

/-- At most `bound` pieces from the front of a list. -/
def chunksUpTo (size : Nat) : (bound : Nat) → List α → List (List α)
  | 0, _ => []
  | bound + 1, l => if l.isEmpty then [] else l.take size :: chunksUpTo size bound (l.drop size)

/-- A list in pieces of `size` elements; the last piece may be shorter. -/
def chunks (size : Nat) (l : List α) : List (List α) := chunksUpTo size l.length l

end BlobVault
