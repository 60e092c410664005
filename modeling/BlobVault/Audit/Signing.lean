import BlobVault.Failure
import BlobVault.Signature.Ed25519
import BlobVault.Text.Hex

/-! Signatures over record hashes. Hash, key and signature are given in hexadecimal; a signature covers
the octets of the hash, not its text. -/
namespace BlobVault

namespace Hex

def notHex (kind : ErrorKind) (what : Text) : VaultError := ⟨kind, what ++ " must be a hex string"⟩

/-- The octets of a hexadecimal text that is named in the error. -/
def decode (what t : Text) : Except Failure Bytes :=
  match read? t with
  | some b => .ok b
  | none => .error (.known (notHex .hexFormat what))

/-- The octets of a hexadecimal text that is part of a key. -/
def decodeKey (what t : Text) : Except Failure Bytes :=
  match read? t with
  | some b => .ok b
  | none => .error (.known (notHex .keyFormat what))

end Hex

namespace Signing

def wrongSize (what : Text) (size : Nat) : VaultError :=
  ⟨.keyFormat, what ++ " must be " ++ .ofNat size ++ " bytes (" ++ .ofNat (2 * size) ++
    " hex characters)"⟩

/-- A hexadecimal text of exactly so many octets. -/
def decodeSized (what : Text) (size : Nat) (t : Text) : Except Failure Bytes := do
  let b ← Hex.decodeKey what t
  if b.length = size then .ok b else .error (.known (wrongSize what size))

def decodeHash (t : Text) : Except Failure Bytes := Hex.decodeKey "record hash" t

def decodeSeed (t : Text) : Except Failure Bytes := decodeSized "private key" Ed25519.seedSize t

/-- A signature and the public key that verifies it, in hexadecimal. -/
structure Signed where
  signature : Text
  publicKey : Text

def derivePublicKey (seed : Text) : Except Failure Text :=
  return Hex.write (Ed25519.publicKey (← decodeSeed seed))

/-- A signature scheme, which may fail over seeds, keys and signatures when they are loaded or used. -/
structure Scheme where
  loadSeed : (seed : Bytes) → Except Failure Unit
  sign : (seed message : Bytes) → Except Failure Signed
  loadKey : (publicKey : Bytes) → Except Failure Unit
  verify : (publicKey message signature : Bytes) → Except Failure Bool

/-- Ed25519 on whatever it is given. -/
def Scheme.ed25519 : Scheme where
  loadSeed _ := .ok ()
  sign seed message := .ok ⟨Hex.write (Ed25519.sign seed message), Hex.write (Ed25519.publicKey seed)⟩
  loadKey _ := .ok ()
  verify publicKey message signature := .ok (Ed25519.verify publicKey message signature)

/-- Signs a hash. The hash is read before the key. -/
def signWith (s : Scheme) (hash seed : Text) : Except Failure Signed := do
  let message ← decodeHash hash
  let seed ← decodeSeed seed
  s.loadSeed seed
  s.sign seed message

/-- Checks a signature. The hash is read first, then the public key, then the signature. -/
def verifyWith (s : Scheme) (publicKey hash signature : Text) : Except Failure Bool := do
  let message ← decodeHash hash
  let publicKey ← decodeSized "public key" Ed25519.publicKeySize publicKey
  s.loadKey publicKey
  let signature ← decodeSized "signature" Ed25519.signatureSize signature
  s.verify publicKey message signature

def sign (hash seed : Text) : Except Failure Signed := signWith .ed25519 hash seed

def verify (publicKey hash signature : Text) : Except Failure Bool :=
  verifyWith .ed25519 publicKey hash signature

end Signing
end BlobVault
