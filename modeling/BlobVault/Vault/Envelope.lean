import BlobVault.Audit.Signing
import BlobVault.Cipher.Aes256
import BlobVault.Cipher.Gcm
import BlobVault.World

/-! Envelope encryption of one payload under a key and a nonce that are drawn for it. Only the caller
learns the key material, which is written as one hexadecimal text. -/
namespace BlobVault

def keySize : Nat := 32

def nonceSize : Nat := 12

def keyMaterialSize : Nat := keySize + nonceSize

/-- A key and a nonce of the sizes that the cipher takes. -/
structure KeyMaterial where
  key : Bytes
  nonce : Bytes
  key_length : key.length = keySize
  nonce_length : nonce.length = nonceSize

namespace KeyMaterial

def ofDraws? : Draw → Draw → Option KeyMaterial
  | some key, some nonce =>
    if h : key.length = keySize ∧ nonce.length = nonceSize then some ⟨key, nonce, h.1, h.2⟩ else none
  | _, _ => none

/-- The key and then the nonce in hexadecimal. -/
def text (m : KeyMaterial) : Text := Hex.write (m.key ++ m.nonce)

def notEncodable : VaultError :=
  ⟨.keyFormat, "Key must be " ++ .ofNat keySize ++ " bytes and nonce " ++
    .ofNat nonceSize ++ " bytes."⟩

def wrongSize (size : Nat) : VaultError :=
  ⟨.keyFormat, "Decryption key must be " ++ .ofNat keyMaterialSize ++ " bytes (" ++
    .ofNat (2 * keyMaterialSize) ++ " hex characters), got " ++ .ofNat size ++ " bytes."⟩

/-- The text of two values that ought to be key material. -/
def encode (key nonce : Draw) : Except Failure Text :=
  match ofDraws? key nonce with
  | some m => .ok m.text
  | none => .error (.known notEncodable)

def decode (t : Text) : Except Failure KeyMaterial := do
  let raw ← Hex.decodeKey "decryption key" t
  match ofDraws? (some (raw.take keySize)) (some (raw.drop keySize)) with
  | some m => .ok m
  | none => .error (.known (wrongSize raw.length))

end KeyMaterial

/-- Where a cipher can break down: when it is set up with a key, or at work. -/
inductive CipherStage where
  | setup
  | work
  deriving DecidableEq

/-- A fault of the cipher that strikes instead of a result. -/
structure CipherFault where
  stage : CipherStage
  fault : Fault

namespace Envelope

/-- The most octets of a message that the cipher takes at once, a tag not counted. -/
def maxSize : Nat := 0x7FFFFFFF

def tooLong : Fault := ⟨.crash .overflow, ["Data or associated data too long. Max 2**31 - 1 bytes"]⟩

def badDraws : VaultError :=
  ⟨.cipherInit, "Random source returned key material of the wrong size."⟩

def badMaterial : VaultError := ⟨.decryption, "Key material has the wrong size."⟩

def noTag : VaultError := ⟨.decryption, "Ciphertext is too short to contain an authentication tag."⟩

def notAuthentic : VaultError :=
  ⟨.decryption, "Ciphertext could not be authenticated with the provided key."⟩

/-- A fault of the cipher at work on a message that the envelope expects. -/
def isEncryptionFault (f : Fault) : Bool := f.kind.isUnfitValue || f.kind = .crash .overflow

def isDecryptionFault (f : Fault) : Bool := f.kind.isUnfitValue || f.kind = .crash .forgery

def sealWith (m : KeyMaterial) (plaintext : Bytes) : Except Fault Bytes :=
  if maxSize < plaintext.length then .error tooLong
  else .ok (Cipher.Gcm.encrypt (Cipher.Aes256.encrypt m.key) m.nonce plaintext)

def unsealWith (m : KeyMaterial) (ciphertext : Bytes) : Except Fault Bytes :=
  if maxSize < ciphertext.length - Cipher.Gcm.tagSize then .error tooLong
  else
    match Cipher.Gcm.decrypt? (Cipher.Aes256.encrypt m.key) m.nonce ciphertext with
    | some plaintext => .ok plaintext
    | none => .error ⟨.crash .forgery, []⟩

/-- Encrypts under key material. Faults that the envelope expects become errors of their stage. -/
def encryptWith (fault : Option CipherFault) (m : KeyMaterial) (plaintext : Bytes) :
    Except Failure Bytes :=
  match fault with
  | some ⟨.setup, f⟩ =>
    .error (if f.kind.isUnfitValue then .known ⟨.cipherInit, f.message⟩ else .fault f)
  | some ⟨.work, f⟩ =>
    .error (if isEncryptionFault f then .known ⟨.encryption, f.message⟩ else .fault f)
  | none =>
    match sealWith m plaintext with
    | .ok ciphertext => .ok ciphertext
    | .error f => .error (if isEncryptionFault f then .known ⟨.encryption, f.message⟩ else .fault f)

/-- Draws a key and then a nonce and encrypts under them. -/
def encrypt (fault : Option CipherFault) (plaintext : Bytes) : Action (Bytes × KeyMaterial) := do
  let key ← Action.draw keySize
  let nonce ← Action.draw nonceSize
  match KeyMaterial.ofDraws? key nonce with
  | none => Action.fail badDraws
  | some m =>
    let ciphertext ← Action.ofExcept (encryptWith fault m plaintext)
    return (ciphertext, m)

/-- Decrypts and authenticates. Sizes are checked before the cipher is set up. -/
def decrypt (fault : Option CipherFault) (ciphertext : Bytes) (key nonce : Draw) :
    Except Failure Bytes :=
  match KeyMaterial.ofDraws? key nonce with
  | none => .error (.known badMaterial)
  | some m =>
    if ciphertext.length < Cipher.Gcm.tagSize then .error (.known noTag)
    else
      let result : Except Fault Bytes := match fault with
        | some f => .error f.fault
        | none => unsealWith m ciphertext
      match result with
      | .ok plaintext => .ok plaintext
      | .error f => .error (if isDecryptionFault f then .known notAuthentic else .fault f)

end Envelope
end BlobVault
