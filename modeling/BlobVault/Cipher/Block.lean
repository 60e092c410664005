import BlobVault.Bytes

/-! Blocks of 128 bits. The first octet of a block is the most significant one. -/
namespace BlobVault.Cipher

abbrev Block := BitVec 128

namespace Block

/-- At most sixteen octets as a block, filled up with zeros on the right. -/
def ofBytes (b : Bytes) : Block := .ofNat 128 (Bytes.toNatBig (b ++ List.replicate (16 - b.length) 0))

def toBytes (x : Block) : Bytes := Bytes.ofNatBig 16 x.toNat

end Block
end BlobVault.Cipher
