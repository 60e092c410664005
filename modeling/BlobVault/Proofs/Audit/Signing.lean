import BlobVault.Proofs.Audit.Rederivation
import BlobVault.Proofs.Audit.Sized
import BlobVault.Proofs.Cipher.Gcm

/-! Hashing, signing and verifying fit together. A hash that is printed can be signed, what is signed verifies,
and signature and public key depend on the octets that the texts spell, not on their spelling. -/
namespace BlobVault

open BlobVault.Action (Returns)

namespace Ed25519

theorem length_publicKey (seed : Bytes) : (publicKey seed).length = publicKeySize :=
  Bytes.length_ofNatLittle 32 _

theorem length_sign (seed message : Bytes) : (sign seed message).length = signatureSize := by
  rw [sign, List.length_append, EdwardsCurve.Point.toBytes, Bytes.length_ofNatLittle, Bytes.length_ofNatLittle]
  rfl

/-- The public key of a seed accepts the signature of a message under the seed. -/
def Opens (seed message : Bytes) : Prop := verify (publicKey seed) message (sign seed message) = true

end Ed25519

namespace Hex

/-- So many hexadecimal digits in lower case. -/
def LowerDigits (count : Nat) (t : Text) : Prop :=
  t.length = count ∧ ∀ c ∈ t, ∃ n, n < 16 ∧ c = .hexDigit n

theorem lowerDigits_write {b : Bytes} {size : Nat} (sized : b.length = size) :
    LowerDigits (2 * size) (write b) := by
  constructor
  · rw [length_write, sized]
  · intro c member
    obtain ⟨x, -, place⟩ := List.mem_flatMap.mp member
    have bound := x.toNat_lt
    simp only [writeOctet, List.mem_cons, List.not_mem_nil, or_false] at place
    rcases place with high | low
    · exact ⟨_, by omega, high⟩
    · exact ⟨_, by omega, low⟩

/-- Digits, markers and blanks are no surrogates. -/
theorem plain_of_spells {t : Text} {b : Bytes} (spelled : Spells t b) : t.hasSurrogate = false := by
  obtain ⟨marker, digits, known, lower, before, after, blankBefore, blankAfter, rfl⟩ := spelled
  have blank {gap : Text} (blank : gap.AllBlank) : gap.hasSurrogate = false := by
    rw [Text.hasSurrogate, List.any_eq_false]
    intro c member
    have range := blank c member
    simp only [CodePoint.isBlank, Bool.or_eq_true, Bool.and_eq_true, decide_eq_true_eq, beq_iff_eq] at range
    simp only [CodePoint.isSurrogate, Bool.and_eq_true, decide_eq_true_eq]
    omega
  have marked : ∀ marker ∈ markers, marker.hasSurrogate = false := by decide
  have plain : digits.hasSurrogate = false := by
    apply Text.hasSurrogate_of_small
    intro c member
    obtain ⟨n, read⟩ := digit_of_lowerAscii lower c member
    unfold digitValue? at read
    grind
  rw [Text.hasSurrogate_append, Text.hasSurrogate_append, Text.hasSurrogate_append, blank blankBefore,
    marked marker known, plain, blank blankAfter]
  rfl

end Hex

namespace Signing

variable {hash key : Text} {message seed : Bytes}

theorem decodeHash_of_spells (spelled : Hex.Spells hash message) : decodeHash hash = .ok message := by
  rw [decodeHash, Hex.decodeKey_of_spells spelled]

theorem derivePublicKey_of_spells (spelled : Hex.Spells key seed) (sized : seed.length = Ed25519.seedSize) :
    derivePublicKey key = .ok (Hex.write (Ed25519.publicKey seed)) := by
  rw [derivePublicKey, decodeSeed, decodeSized_of_spells spelled sized]
  rfl

theorem sign_of_spells (hashed : Hex.Spells hash message) (keyed : Hex.Spells key seed)
    (sized : seed.length = Ed25519.seedSize) :
    sign hash key = .ok ⟨Hex.write (Ed25519.sign seed message), Hex.write (Ed25519.publicKey seed)⟩ := by
  simp only [sign, signWith, decodeHash_of_spells hashed, decodeSeed, decodeSized_of_spells keyed sized, bind,
    Except.bind]
  rfl

theorem verify_of_spells {publicKey signature : Text} (hashed : Hex.Spells hash message)
    (keyed : Hex.Spells publicKey (Ed25519.publicKey seed))
    (signed : Hex.Spells signature (Ed25519.sign seed message)) (opens : Ed25519.Opens seed message) :
    verify publicKey hash signature = .ok true := by
  have key := decodeSized_of_spells keyed (Ed25519.length_publicKey seed) "public key"
  have accepted := decodeSized_of_spells signed (Ed25519.length_sign seed message) "signature"
  simp only [verify, verifyWith, decodeHash_of_spells hashed, key, accepted, bind, Except.bind]
  exact congrArg Except.ok opens

end Signing

namespace Evidence

def signedMembers (hash signature publicKey : Text) : Members :=
  [("record_hash", .text hash), ("signature", .text signature), ("public_key", .text publicKey)]

def verifiedMembers (hash : Text) (valid : Bool) : Members :=
  [("record_hash", .text hash), ("valid", .truth valid)]

theorem readable_text {t : Text} (plain : t.hasSurrogate = false) (depth : Nat) :
    Json.Readable true depth (.text t) :=
  .scalar fun _ => Text.unpaired_of_plain plain

theorem readable_signed {hash signature publicKey : Text} (hashed : hash.hasSurrogate = false)
    (signed : signature.hasSurrogate = false) (keyed : publicKey.hasSurrogate = false) :
    Json.Readable true 1 (.object (signedMembers hash signature publicKey)) := by
  apply Json.Readable.ofNames ["record_hash", "signature", "public_key"] rfl
  · decide
  · decide
  · simp only [signedMembers, List.forall_mem_cons]
    refine ⟨readable_text hashed _, readable_text signed _, readable_text keyed _, ?_⟩
    exact fun _ inside => nomatch inside

theorem readable_verified {hash : Text} (hashed : hash.hasSurrogate = false) (valid : Bool) :
    Json.Readable true 1 (.object (verifiedMembers hash valid)) := by
  apply Json.Readable.ofNames ["record_hash", "valid"] rfl
  · decide
  · decide
  · simp only [verifiedMembers, List.forall_mem_cons]
    exact ⟨readable_text hashed _, .scalar trivial, fun _ inside => nomatch inside⟩

section Run

variable {hash : Text} {message seed : Bytes} (hashed : Hex.Spells hash message)
include hashed

/-- Signing prints the hash as it is given, and with it the signature and the public key. -/
theorem sign_run {key : Text} (keyed : Hex.Spells key seed) (sized : seed.length = Ed25519.seedSize)
    (v : Verbosity) (w : World) :
    ∃ told, Returns (sign v ⟨hash, key⟩) w 0 ((w.tell told).printed (Json.page
      (signedMembers hash (Hex.write (Ed25519.sign seed message)) (Hex.write (Ed25519.publicKey seed))))) := by
  have readable := readable_signed (Hex.plain_of_spells hashed)
    (Hex.hasSurrogate_write (Ed25519.sign seed message)) (Hex.hasSurrogate_write (Ed25519.publicKey seed))
  have given : key.isEmpty = false := by
    cases key with
    | nil =>
      cases Hex.read?_eq_some_iff.mpr keyed
      cases sized
    | cons => rfl
  unfold signedMembers at readable ⊢
  unfold Returns
  simp only [sign, given, Bool.false_eq_true, if_false, orReport, Signing.sign_of_spells hashed keyed sized,
    Action.run_bind, Action.run_detail, Action.printJson_eq readable, Action.run_pure]
  exact ⟨_, rfl⟩

/-- Verifying accepts a signature in every spelling. -/
theorem verify_run {publicKey signature : Text} (keyed : Hex.Spells publicKey (Ed25519.publicKey seed))
    (signed : Hex.Spells signature (Ed25519.sign seed message)) (opens : Ed25519.Opens seed message)
    (w : World) :
    Returns (verify ⟨hash, signature, publicKey⟩) w 0 (w.printed (Json.page (verifiedMembers hash true))) := by
  have readable := readable_verified (Hex.plain_of_spells hashed) true
  unfold verifiedMembers at readable ⊢
  unfold Returns
  simp only [verify, orReport, Signing.verify_of_spells hashed keyed signed opens, Action.run_bind,
    Action.printJson_eq readable, if_true, Action.run_pure]

end Run

/-- The hash of an accepted record is a text that spells octets. -/
theorem hash_prints {v : Verbosity} {i : AuditInput} {w left : World} (ended : Returns (hash v i) w 0 left) :
    ∃ shown hash digest, left.output = w.output ++ shown ∧
      Json.ReadsAs 1 shown (.object [("record_hash", .text hash)]) ∧ Hex.read? hash = some digest := by
  obtain ⟨r, accepted⟩ := build_of_hash ended
  obtain ⟨shown, ran, read⟩ := hash_run accepted v w
  obtain ⟨-, rfl⟩ := (Returns.of_run ran).mp ended
  refine ⟨shown, _, Digest.sha256 (canonical r).utf8, rfl, read, Hex.read?_eq_some_iff.mpr ?_⟩
  exact ⟨"0x", Canonical.checksum (canonical r).utf8, by decide, Hex.lowerAscii_write _, Text.Padded.self _⟩

/-- Hashing, signing and verifying compose. The hash of an accepted record reads as octets. When a public key
accepts the signatures of its seed, every text of these octets is signed under every text of the seed, with
signature and public key in 128 and 64 digits that depend on octets and seed alone, and all spellings of hash,
signature and public key verify. -/
theorem hash_sign_verify :
    (∀ v i w left, Returns (hash v i) w 0 left → ∃ shown hash digest, left.output = w.output ++ shown ∧
      Json.ReadsAs 1 shown (.object [("record_hash", .text hash)]) ∧ Hex.read? hash = some digest) ∧
    ∀ seed message, seed.length = 32 → Ed25519.Opens seed message → ∃ signature publicKey,
      Hex.LowerDigits 128 signature ∧ Hex.LowerDigits 64 publicKey ∧
      (∀ hash key, Hex.read? hash = some message → Hex.read? key = some seed →
        Signing.derivePublicKey key = .ok publicKey ∧
        ∀ v w, ∃ left shown, Returns (sign v ⟨hash, key⟩) w 0 left ∧ left.output = w.output ++ shown ∧
          Json.ReadsAs 1 shown (.object [("record_hash", .text hash), ("signature", .text signature),
            ("public_key", .text publicKey)])) ∧
      ∀ hash signed keyed, Hex.Spells hash message → Hex.Respells signature signed →
        Hex.Respells publicKey keyed → ∀ w, ∃ left shown,
          Returns (verify ⟨hash, signed, keyed⟩) w 0 left ∧ left.output = w.output ++ shown ∧
          Json.ReadsAs 1 shown (.object [("record_hash", .text hash), ("valid", .truth true)]) := by
  refine ⟨fun v i w left => hash_prints, fun seed message sized opens => ?_⟩
  refine ⟨Hex.write (Ed25519.sign seed message), Hex.write (Ed25519.publicKey seed), ?_, ?_, ?_, ?_⟩
  · exact Hex.lowerDigits_write (Ed25519.length_sign seed message)
  · exact Hex.lowerDigits_write (Ed25519.length_publicKey seed)
  · intro hash key hashed keyed
    rw [Hex.read?_eq_some_iff] at hashed keyed
    refine ⟨Signing.derivePublicKey_of_spells keyed sized, fun v w => ?_⟩
    obtain ⟨told, ended⟩ := sign_run hashed keyed sized v w
    have readable := readable_signed (Hex.plain_of_spells hashed)
      (Hex.hasSurrogate_write (Ed25519.sign seed message)) (Hex.hasSurrogate_write (Ed25519.publicKey seed))
    exact ⟨_, _, ended, rfl, Json.readsAs_page readable⟩
  · intro hash signed keyed hashed signature publicKey w
    have readable := readable_verified (Hex.plain_of_spells hashed) true
    exact ⟨_, _, verify_run hashed publicKey signature opens w, rfl, Json.readsAs_page readable⟩

/-- One octet signed under a seed of zeros, and then verified in other spellings. -/
theorem hash_sign_verify_respelled :
    let seed : Bytes := List.replicate 32 0
    let w : World := ⟨⟨[], []⟩, [], [], [], [], [], []⟩
    ∃ signature publicKey,
      (∃ left, Returns (sign ⟨false, false⟩ ⟨"0xab", Hex.write seed⟩) w 0 left ∧
        Json.ReadsAs 1 left.output (.object [("record_hash", .text "0xab"), ("signature", .text signature),
          ("public_key", .text publicKey)])) ∧
      ∃ left, Returns (verify ⟨" 0XAB\n", signature, "0X" ++ publicKey⟩) w 0 left ∧
        Json.ReadsAs 1 left.output (.object [("record_hash", .text " 0XAB\n"), ("valid", .truth true)]) := by
  intro seed w
  have opens : Ed25519.Opens seed [0xAB] := by
    unfold Ed25519.Opens
    decide +kernel
  obtain ⟨signature, publicKey, ⟨-, digits⟩, ⟨-, keyDigits⟩, signs, verifies⟩ :=
    hash_sign_verify.2 seed [0xAB] (by decide) opens
  have lower {t : Text} (digits : ∀ c ∈ t, ∃ n, n < 16 ∧ c = .hexDigit n) : t.lowerAscii = t := by
    rw [Text.lowerAscii, List.map_congr_left, List.map_id]
    intro c member
    obtain ⟨n, small, rfl⟩ := digits c member
    exact Hex.lowerAscii_hexDigit small
  obtain ⟨-, signed⟩ := signs "0xab" (Hex.write seed) (by decide) (by decide)
  obtain ⟨left, _, ended, shown, read⟩ := signed ⟨false, false⟩ w
  have respelled : Hex.Spells " 0XAB\n" [0xAB] := Hex.read?_eq_some_iff.mp (by decide)
  obtain ⟨after, _, verified, printed, accepted⟩ := verifies " 0XAB\n" signature ("0X" ++ publicKey) respelled
    ⟨[], signature, by decide, lower digits, Text.Padded.self _⟩
    ⟨"0X", publicKey, by decide, lower keyDigits, Text.Padded.self _⟩ w
  exact ⟨signature, publicKey, ⟨left, ended, shown ▸ read⟩, after, verified, printed ▸ accepted⟩

end Evidence
end BlobVault
