import BlobVault.Proofs.Cipher.Authenticator
import BlobVault.Proofs.Vault.Opening

/-! Tampering in one place is detected. A ciphertext that was changed in its tag alone is refused under every
key, and one that was changed in one block alone under every key that does not encrypt the zero block to
itself; so is every flipped bit. -/
namespace BlobVault.Envelope

variable {m : KeyMaterial} {plaintext ciphertext changed : Bytes}

/-- A ciphertext is refused as one that was not made under the key material. -/
def Detects (m : KeyMaterial) (ciphertext : Bytes) : Prop :=
  decrypt none ciphertext (some m.key) (some m.nonce) = .error (.known notAuthentic)

/-- What is as long as a ciphertext and does not open is refused. -/
theorem detects_of_closed (produced : Produces m plaintext ciphertext)
    (length : changed.length = ciphertext.length)
    (closed : Cipher.Gcm.decrypt? (Cipher.Aes256.encrypt m.key) m.nonce changed = none) :
    Detects m changed := by
  have made := length_of_encryptWith (produces_iff.mp produced)
  have reaches : Reaches changed (some m.key) (some m.nonce) m :=
    ⟨KeyMaterial.ofDraws?_eq_some_iff.mpr ⟨rfl, rfl⟩, by omega⟩
  have short : ¬ Overlong changed := by
    rw [Overlong, length]
    exact not_overlong_of_produces produced
  have unproduced : ¬ ∃ other, Produces m other changed := by
    rintro ⟨other, again⟩
    obtain ⟨-, sealed⟩ := encryptWith_eq_ok_iff.mp (produces_iff.mp again)
    rw [← Cipher.Gcm.decrypt?_eq_some_iff, closed] at sealed
    contradiction
  rw [Detects, decrypt_of_unproduced reaches unproduced, refusal_of_short reaches.tagged short]

theorem detects_tag (produced : Produces m plaintext ciphertext)
    (differs : Bytes.DiffersWithin plaintext.length (plaintext.length + 16) ciphertext changed) :
    Detects m changed := by
  apply detects_of_closed produced differs.length
  obtain ⟨-, rfl⟩ := encryptWith_eq_ok_iff.mp (produces_iff.mp produced)
  exact Cipher.Gcm.decrypt?_of_tag_changed differs

theorem detects_block (produced : Produces m plaintext ciphertext)
    (nonzero : Cipher.Aes256.encrypt m.key 0 ≠ 0) (index : Nat)
    (differs : Bytes.DiffersWithin (16 * index) (min (16 * index + 16) plaintext.length) ciphertext changed) :
    Detects m changed := by
  apply detects_of_closed produced differs.length
  obtain ⟨-, rfl⟩ := encryptWith_eq_ok_iff.mp (produces_iff.mp produced)
  exact Cipher.Gcm.decrypt?_of_block_changed nonzero differs

/-- Every bit lies in the tag or in one block before it. -/
theorem detects_bit (produced : Produces m plaintext ciphertext)
    (nonzero : Cipher.Aes256.encrypt m.key 0 ≠ 0) {place bit : Nat} (inside : place < ciphertext.length)
    (small : bit < 8) : Detects m (ciphertext.flip place bit) := by
  have length : ciphertext.length = plaintext.length + 16 := length_of_encryptWith (produces_iff.mp produced)
  have differs := Bytes.DiffersWithin.flip inside small
  by_cases behind : plaintext.length ≤ place
  · exact detects_tag produced (differs.mono behind (by omega))
  · exact detects_block produced nonzero (place / 16) (differs.mono (by omega) (by omega))

/-- A ciphertext opens, and a change of it is detected where it stays within its tag. If the key does not
encrypt the zero block to itself, a change is also detected where it stays within one block before the tag, and
where one bit is flipped anywhere. -/
theorem decrypt_detects (produced : Produces m plaintext ciphertext) :
    decrypt none ciphertext (some m.key) (some m.nonce) = .ok plaintext ∧
    (∀ changed, Bytes.DiffersWithin plaintext.length (plaintext.length + 16) ciphertext changed →
      Detects m changed) ∧
    (Cipher.Aes256.encrypt m.key 0 ≠ 0 →
      (∀ index changed, Bytes.DiffersWithin (16 * index) (min (16 * index + 16) plaintext.length) ciphertext
        changed → Detects m changed) ∧
      ∀ place bit, place < ciphertext.length → bit < 8 → Detects m (ciphertext.flip place bit)) := by
  refine ⟨decrypt_eq_ok_iff.mpr (produces_iff.mp produced), ?_, fun nonzero => ⟨?_, ?_⟩⟩
  · intro changed differs
    exact detects_tag produced differs
  · intro index changed differs
    exact detects_block produced nonzero index differs
  · intro place bit inside small
    exact detects_bit produced nonzero inside small

/-- A bit of the single octet in the second block, and the last bit of the tag behind it. -/
theorem decrypt_detects_bits :
    let m : KeyMaterial := ⟨List.replicate 32 0, List.replicate 12 0, rfl, rfl⟩
    let plaintext : Bytes := List.replicate 17 0
    let ciphertext := Cipher.Gcm.encrypt (Cipher.Aes256.encrypt m.key) m.nonce plaintext
    Produces m plaintext ciphertext ∧ Cipher.Aes256.encrypt m.key 0 ≠ 0 ∧
      Detects m (ciphertext.flip 16 7) ∧ Detects m (ciphertext.flip 32 0) := by
  intro m plaintext ciphertext
  have produced : Produces m plaintext ciphertext :=
    produces_iff.mpr (encryptWith_eq_ok_iff.mpr ⟨by decide, rfl⟩)
  have nonzero : Cipher.Aes256.encrypt m.key 0 ≠ 0 := by decide +kernel
  have length : ciphertext.length = 17 + 16 := Cipher.Gcm.length_encrypt _ _ _
  obtain ⟨-, tag, body⟩ := decrypt_detects produced
  refine ⟨produced, nonzero, ?_, ?_⟩
  · exact (body nonzero).2 16 7 (by omega) (by decide)
  · have differs : Bytes.DiffersWithin 32 33 ciphertext (ciphertext.flip 32 0) :=
      Bytes.DiffersWithin.flip (by omega) (by decide)
    exact tag _ (differs.mono (by decide) (by decide))

end BlobVault.Envelope
