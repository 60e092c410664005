import BlobVault.Proofs.Bytes
import BlobVault.Proofs.Cipher.Field
import BlobVault.Proofs.Cipher.Gcm

/-! The tag of a ciphertext depends on each of its blocks one to one: where all other blocks stay, two tags are
the same only if the block is. So what differs from a sealed message in its tag alone, or in one block alone,
does not open. -/
namespace BlobVault.Cipher

namespace Block

theorem bits_eq : 2 ^ 128 = 256 ^ 16 := rfl

theorem toBytes_ofBytes {b : Bytes} (short : b.length ≤ 16) :
    (ofBytes b).toBytes = b ++ List.replicate (16 - b.length) 0 := by
  have length : (b ++ List.replicate (16 - b.length) 0).length = 16 := by
    rw [List.length_append, List.length_replicate]
    omega
  have bound := Bytes.toNatBig_lt (b ++ List.replicate (16 - b.length) 0)
  have back := Bytes.ofNatBig_toNatBig (b ++ List.replicate (16 - b.length) 0)
  rw [length] at bound back
  rw [toBytes, ofBytes, BitVec.toNat_ofNat, bits_eq, Nat.mod_eq_of_lt bound, back]

/-- Blocks of equally many octets are the same only if the octets are. -/
theorem ofBytes_injective {b c : Bytes} (short : b.length ≤ 16) (length : b.length = c.length)
    (same : ofBytes b = ofBytes c) : b = c := by
  have octets := congrArg toBytes same
  rw [toBytes_ofBytes short, toBytes_ofBytes (length ▸ short), length] at octets
  exact List.append_cancel_right octets

theorem toBytes_injective : Function.Injective toBytes := by
  intro x y same
  have numbers := congrArg Bytes.toNatBig same
  rw [toBytes, toBytes, Bytes.toNatBig_ofNatBig, Bytes.toNatBig_ofNatBig, ← bits_eq, Nat.mod_eq_of_lt x.isLt,
    Nat.mod_eq_of_lt y.isLt] at numbers
  exact BitVec.eq_of_toNat_eq numbers

end Block

namespace Gcm

variable {h : Block}

/-- Blocks that follow keep two sums apart, by induction on them. -/
theorem foldl_injective (nonzero : h ≠ 0) (blocks : List Block) :
    Function.Injective fun y => blocks.foldl (fun y x => mul (y ^^^ x) h) y := by
  induction blocks with
  | nil => exact fun _ _ same => same
  | cons x blocks ih =>
    intro y z same
    have sums : y ^^^ x = z ^^^ x := mul_left_injective nonzero (ih same)
    exact (BitVec.xor_left_inj x).mp sums

/-- The polynomial is one to one in each of its coefficients. -/
theorem ghash_separates (nonzero : h ≠ 0) {front back : List Block} {x y : Block}
    (same : ghash h (front ++ x :: back) = ghash h (front ++ y :: back)) : x = y := by
  simp only [ghash, List.foldl_append, List.foldl_cons] at same
  have sums := mul_left_injective nonzero (foldl_injective nonzero back same)
  exact (BitVec.xor_right_inj _).mp sums

/-- The coefficients of a ciphertext around one of its blocks. -/
theorem coefficients_split {count : Nat} {front block back : Bytes} (whole : front.length = 16 * count)
    (some : block ≠ []) (short : block.length ≤ 16) (fits : block.length = 16 ∨ back = []) :
    coefficients (front ++ (block ++ back)) =
      (chunks 16 front).map Block.ofBytes ++ Block.ofBytes block :: ((chunks 16 back).map Block.ofBytes ++
        [BitVec.ofNat 64 0 ++ BitVec.ofNat 64 (8 * (front.length + (block.length + back.length)))]) := by
  rw [coefficients, chunks_split (by decide) whole some short fits, List.map_append, List.map_cons,
    List.length_append, List.length_append, List.append_assoc, List.cons_append]

variable {cipher : Block → Block} {nonce : Bytes}

theorem ghash_of_tag {b c : Bytes} (same : tag cipher nonce b = tag cipher nonce c) :
    ghash (cipher 0) (coefficients b) = ghash (cipher 0) (coefficients c) :=
  (BitVec.xor_left_inj _).mp (Block.toBytes_injective same)

/-- Ciphertexts that differ in one block have different tags. -/
theorem tag_separates (nonzero : cipher 0 ≠ 0) {index : Nat} {b c : Bytes}
    (changed : Bytes.DiffersWithin (16 * index) (min (16 * index + 16) b.length) b c) :
    tag cipher nonce b ≠ tag cipher nonce c := by
  intro same
  obtain ⟨front, first, second, back, rfl, rfl, aligned, sized, resized, differ⟩ := changed.split (by omega)
  have equally : first.length = second.length := sized.trans resized.symm
  simp only [List.length_append] at sized
  have short : first.length ≤ 16 := by omega
  have some : first ≠ [] := by
    rintro rfl
    exact differ (List.length_eq_zero_iff.mp equally.symm).symm
  have others : second ≠ [] := by
    rintro rfl
    exact some (List.length_eq_zero_iff.mp equally)
  -- Only the last block may be short, so both ciphertexts come apart at the same places.
  have fits : first.length = 16 ∨ back = [] := by
    rw [← List.length_eq_zero_iff]
    omega
  have sums := ghash_of_tag same
  rw [coefficients_split aligned some short fits, coefficients_split aligned others (equally ▸ short)
    (equally ▸ fits), ← equally] at sums
  exact differ (Block.ofBytes_injective short equally (ghash_separates nonzero sums))

theorem take_encrypt {plaintext : Bytes} {size : Nat} (length : plaintext.length = size) :
    (encrypt cipher nonce plaintext).take size = crypt cipher nonce plaintext :=
  List.take_left' ((length_crypt ..).trans length)

theorem drop_encrypt {plaintext : Bytes} {size : Nat} (length : plaintext.length = size) :
    (encrypt cipher nonce plaintext).drop size = tag cipher nonce (crypt cipher nonce plaintext) :=
  List.drop_left' ((length_crypt ..).trans length)

/-- What has the length of a sealed message and opens was sealed from a message of the same length. -/
theorem length_of_encrypts {plaintext other : Bytes} {start stop : Nat}
    (changed : Bytes.DiffersWithin start stop (encrypt cipher nonce plaintext) (encrypt cipher nonce other)) :
    other.length = plaintext.length := by
  have lengths := changed.length
  rw [length_encrypt, length_encrypt] at lengths
  exact Nat.add_right_cancel lengths

/-- A sealed message with another tag does not open. -/
theorem decrypt?_of_tag_changed {plaintext other : Bytes}
    (changed : Bytes.DiffersWithin plaintext.length (plaintext.length + tagSize)
      (encrypt cipher nonce plaintext) other) : decrypt? cipher nonce other = none := by
  rw [Option.eq_none_iff_forall_ne_some]
  intro opened opens
  rw [decrypt?_eq_some_iff] at opens
  subst opens
  have same := changed.take_eq
  -- The same ciphertext was made from the same message, and then the tags are the same as well.
  rw [take_encrypt (length_of_encrypts changed), take_encrypt rfl] at same
  have messages := congrArg (crypt cipher nonce) same
  rw [crypt_crypt, crypt_crypt] at messages
  exact changed.differs (congrArg _ messages)

/-- A sealed message with another block does not open. -/
theorem decrypt?_of_block_changed (nonzero : cipher 0 ≠ 0) {plaintext other : Bytes} {index : Nat}
    (changed : Bytes.DiffersWithin (16 * index) (min (16 * index + 16) plaintext.length)
      (encrypt cipher nonce plaintext) other) : decrypt? cipher nonce other = none := by
  rw [Option.eq_none_iff_forall_ne_some]
  intro opened opens
  rw [decrypt?_eq_some_iff] at opens
  subst opens
  have length := length_of_encrypts changed
  have blocks := changed.take (Nat.min_le_right _ plaintext.length)
  have tags := (changed.mono (Nat.le_refl _) (Nat.min_le_right _ plaintext.length)).drop_eq
  rw [take_encrypt length, take_encrypt rfl] at blocks
  rw [drop_encrypt length, drop_encrypt rfl] at tags
  rw [← length_crypt cipher nonce plaintext] at blocks
  exact tag_separates nonzero blocks tags.symm

end Gcm
end BlobVault.Cipher
