import BlobVault.Cipher.Block

/-! Authenticated encryption by counter mode and a polynomial tag, over any cipher of 128-bit blocks.
The message is added to a key stream; the tag is a polynomial in the encrypted zero block whose
coefficients are the blocks of the ciphertext and its length. -/
namespace BlobVault.Cipher.Gcm

/-- The reduction of the field: the bits of 1 + x + x^2 + x^7, lowest power first. -/
def reduction : Block := 0xE1000000000000000000000000000000

/-- Multiplication by the indeterminate. The first bit of a block is the coefficient of 1. -/
def timesX (v : Block) : Block := if v.getLsbD 0 then (v >>> 1) ^^^ reduction else v >>> 1

/-- Adds `v` times those powers of the indeterminate whose coefficients in `x` are among the last
`count` ones. -/
def mulFrom (x : Block) : (count : Nat) → (z v : Block) → Block
  | 0, z, _ => z
  | count + 1, z, v => mulFrom x count (if x.getLsbD count then z ^^^ v else z) (timesX v)

/-- Multiplication in the field of 2^128 elements. -/
def mul (x y : Block) : Block := mulFrom x 128 0 y

/-- The polynomial with the given coefficients, by Horner's rule, times `h`. -/
def ghash (h : Block) (blocks : List Block) : Block :=
  blocks.foldl (fun y x => mul (y ^^^ x) h) 0

/-- The coefficients of a ciphertext: its blocks, then the lengths in bits of the associated data,
which is empty, and of the ciphertext. -/
def coefficients (ciphertext : Bytes) : List Block :=
  (chunks 16 ciphertext).map Block.ofBytes ++ [BitVec.ofNat 64 0 ++ BitVec.ofNat 64 (8 * ciphertext.length)]

/-- The counter block of a nonce of 96 bits. The counter has 32 bits and wraps around. -/
def counter (nonce : Bytes) (i : Nat) : Block :=
  BitVec.ofNat 96 (Bytes.toNatBig nonce) ++ BitVec.ofNat 32 i

/-- The key stream for a message: the encrypted counters from 2 on. -/
def keyStream (cipher : Block → Block) (nonce : Bytes) (length : Nat) : Bytes :=
  (List.range ((length + 15) / 16)).flatMap fun i => (cipher (counter nonce (i + 2))).toBytes

/-- Adds the key stream to a message. The same addition takes it away again. -/
def crypt (cipher : Block → Block) (nonce message : Bytes) : Bytes :=
  message.zipWith (· ^^^ ·) (keyStream cipher nonce message.length)

/-- The tag of a ciphertext: its polynomial, hidden by the first encrypted counter. -/
def tag (cipher : Block → Block) (nonce ciphertext : Bytes) : Bytes :=
  (ghash (cipher 0) (coefficients ciphertext) ^^^ cipher (counter nonce 1)).toBytes

def tagSize : Nat := 16

/-- The encrypted message with its tag appended. -/
def encrypt (cipher : Block → Block) (nonce plaintext : Bytes) : Bytes :=
  let ciphertext := crypt cipher nonce plaintext
  ciphertext ++ tag cipher nonce ciphertext

/-- The message of a ciphertext whose last octets are its tag, and nothing if they are not. -/
def decrypt? (cipher : Block → Block) (nonce sealed : Bytes) : Option Bytes :=
  let ciphertext := sealed.take (sealed.length - tagSize)
  let received := sealed.drop (sealed.length - tagSize)
  if received = tag cipher nonce ciphertext then some (crypt cipher nonce ciphertext) else none

end BlobVault.Cipher.Gcm
