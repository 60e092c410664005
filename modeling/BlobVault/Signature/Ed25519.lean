import BlobVault.Digest.Sha2
import BlobVault.Signature.EdwardsCurve

/-! The signature scheme Ed25519. Verification is strict and without cofactor: every part of a
signature has one admitted encoding, and points of small order are refused. -/
namespace BlobVault.Ed25519

open EdwardsCurve

def seedSize : Nat := 32

def publicKeySize : Nat := 32

def signatureSize : Nat := 64

/-- The secret factor of a digest: its first half with the lowest three bits and the highest bit
cleared and the second highest bit set. -/
def secretFactor (digest : Bytes) : Nat :=
  Bytes.toNatLittle (digest.take 32) % (1 <<< 254) / 8 * 8 + (1 <<< 254)

def publicKey (seed : Bytes) : Bytes := (Point.base.scale (secretFactor (Digest.sha512 seed))).toBytes

def factor (message : Bytes) : Nat := Bytes.toNatLittle (Digest.sha512 message) % subgroupOrder

/-- The signature of a message under a seed: a commitment and the response to its digest. -/
def sign (seed message : Bytes) : Bytes :=
  let digest := Digest.sha512 seed
  let nonce := factor (digest.drop 32 ++ message)
  let commitment := (Point.base.scale nonce).toBytes
  let challenge := factor (commitment ++ publicKey seed ++ message)
  commitment ++ .ofNatLittle 32 ((nonce + challenge * secretFactor digest) % subgroupOrder)

/-- Checks that the response is below the order of the subgroup, that the public key is a point of
large order, and that commitment and response agree in a point of large order. -/
def verify (publicKey message signature : Bytes) : Bool :=
  let commitment := signature.take 32
  let response := Bytes.toNatLittle (signature.drop 32)
  match Point.ofBytes? publicKey with
  | none => false
  | some a =>
    let challenge := factor (commitment ++ publicKey ++ message)
    let expected := (Point.base.scale response).add (a.neg.scale challenge)
    decide (response < subgroupOrder) && !a.isSmall && !expected.isSmall &&
      expected.toBytes == commitment

end BlobVault.Ed25519
