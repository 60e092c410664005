import BlobVault.Cipher.Gcm

/-! Sealing and unsealing. Adding the key stream twice changes nothing, so a sealed message opens to
the message that was sealed, and what opens was sealed: every sealed message has one message. -/
namespace BlobVault

theorem Bytes.length_ofNatLittle (width n : Nat) : (ofNatLittle width n).length = width := by
  induction width generalizing n with
  | zero => rfl
  | succ width ih => simp only [ofNatLittle, List.length_cons, ih]

@[simp] theorem Bytes.length_ofNatBig (width n : Nat) : (ofNatBig width n).length = width := by
  simp only [ofNatBig, List.length_reverse, length_ofNatLittle]

namespace Cipher

@[simp] theorem Block.length_toBytes (x : Block) : x.toBytes.length = 16 :=
  Bytes.length_ofNatBig 16 _

namespace Gcm

variable (cipher : Block → Block) (nonce : Bytes)

theorem xor_xor_stream {message stream : Bytes} (long : message.length ≤ stream.length) :
    (message.zipWith (· ^^^ ·) stream).zipWith (· ^^^ ·) stream = message := by
  induction message generalizing stream with
  | nil => simp
  | cons m rest ih =>
    cases stream with
    | nil => simp at long
    | cons k stream =>
      simp only [List.length_cons, Nat.add_le_add_iff_right] at long
      simp only [List.zipWith_cons_cons, ih long, UInt8.xor_assoc, UInt8.xor_self, UInt8.xor_zero]

theorem length_keyStream (length : Nat) :
    (keyStream cipher nonce length).length = 16 * ((length + 15) / 16) := by
  simp only [keyStream, List.length_flatMap, Block.length_toBytes, List.map_const',
    List.sum_replicate_nat, List.length_range, Nat.mul_comm]

theorem length_le_keyStream (length : Nat) : length ≤ (keyStream cipher nonce length).length := by
  rw [length_keyStream]
  omega

@[simp] theorem length_crypt (message : Bytes) :
    (crypt cipher nonce message).length = message.length := by
  rw [crypt, List.length_zipWith]
  exact Nat.min_eq_left (length_le_keyStream cipher nonce message.length)

/-- The key stream depends on the length of the message alone, so the same addition takes it away. -/
@[simp] theorem crypt_crypt (message : Bytes) :
    crypt cipher nonce (crypt cipher nonce message) = message := by
  rw [crypt, length_crypt, crypt]
  exact xor_xor_stream (length_le_keyStream cipher nonce message.length)

@[simp] theorem length_tag (ciphertext : Bytes) : (tag cipher nonce ciphertext).length = tagSize :=
  Block.length_toBytes _

theorem length_encrypt (plaintext : Bytes) :
    (encrypt cipher nonce plaintext).length = plaintext.length + tagSize := by
  simp [encrypt]

theorem decrypt?_encrypt (plaintext : Bytes) :
    decrypt? cipher nonce (encrypt cipher nonce plaintext) = some plaintext := by
  simp [decrypt?, encrypt]

/-- What opens is exactly what was sealed. -/
theorem decrypt?_eq_some_iff {sealed plaintext : Bytes} :
    decrypt? cipher nonce sealed = some plaintext ↔ sealed = encrypt cipher nonce plaintext := by
  constructor
  · intro h
    simp only [decrypt?] at h
    split at h
    · rename_i received
      cases h
      rw [encrypt, crypt_crypt, ← received, List.take_append_drop]
    · contradiction
  · rintro rfl
    exact decrypt?_encrypt cipher nonce plaintext

theorem length_of_decrypt? {sealed plaintext : Bytes}
    (h : decrypt? cipher nonce sealed = some plaintext) :
    sealed.length = plaintext.length + tagSize := by
  rw [(decrypt?_eq_some_iff cipher nonce).mp h, length_encrypt]

end Gcm
end Cipher
end BlobVault
