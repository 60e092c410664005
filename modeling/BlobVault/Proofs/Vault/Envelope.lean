import BlobVault.Proofs.Action
import BlobVault.Proofs.Cipher.Gcm
import BlobVault.Proofs.Text.Hex
import BlobVault.Vault.Envelope

/-! Envelopes open to what was put in. Decrypting accepts exactly what encrypting gives under the same
key material, and the text of key material reads back in every spelling. -/
namespace BlobVault

namespace KeyMaterial

theorem ofDraws?_eq_some_iff {key nonce : Draw} {m : KeyMaterial} :
    ofDraws? key nonce = some m ↔ key = some m.key ∧ nonce = some m.nonce := by
  constructor
  · intro h
    unfold ofDraws? at h
    split at h
    · split at h
      · cases h
        exact ⟨rfl, rfl⟩
      · contradiction
    · contradiction
  · rintro ⟨rfl, rfl⟩
    simp [ofDraws?, m.key_length, m.nonce_length]

/-- The next two draws are the key and the nonce. -/
theorem ofDraws?_next_iff {draws : List Draw} {m : KeyMaterial} :
    ofDraws? (draws.headD none) (draws.tail.headD none) = some m ↔
      draws.take 2 = [some m.key, some m.nonce] := by
  rw [ofDraws?_eq_some_iff]
  match draws with
  | [] => simp
  | [_] => simp
  | key :: nonce :: _ => simp

/-- Key material that passed the check of its sizes passes it again when it is encoded. -/
theorem encode_eq (m : KeyMaterial) : encode (some m.key) (some m.nonce) = .ok m.text := by
  rw [encode, ofDraws?_eq_some_iff.mpr ⟨rfl, rfl⟩]

/-- A text reads as key material exactly when it spells the key and then the nonce. -/
theorem decode_eq_ok_iff {t : Text} {m : KeyMaterial} :
    decode t = .ok m ↔ Hex.Spells t (m.key ++ m.nonce) := by
  rw [← Hex.read?_eq_some_iff]
  unfold decode Hex.decodeKey
  cases Hex.read? t with
  | none => simp [bind, Except.bind]
  | some raw =>
    simp only [bind, Except.bind, Option.some.injEq]
    constructor
    · intro h
      split at h
      · rename_i found
        cases h
        obtain ⟨key, nonce⟩ := ofDraws?_eq_some_iff.mp found
        rw [← Option.some.inj key, ← Option.some.inj nonce, List.take_append_drop]
      · contradiction
    · rintro rfl
      rw [← m.key_length, List.take_left, List.drop_left, ofDraws?_eq_some_iff.mpr ⟨rfl, rfl⟩]

theorem decode_of_unread {t : Text} (unread : Hex.read? t = none) :
    decode t = .error (.known (Hex.notHex .keyFormat "decryption key")) := by
  simp only [decode, Hex.decodeKey, unread, bind, Except.bind]

theorem decode_of_wrongSize {t : Text} {b : Bytes} (read : Hex.read? t = some b)
    (wrong : b.length ≠ keyMaterialSize) : decode t = .error (.known (wrongSize b.length)) := by
  simp only [decode, Hex.decodeKey, read, bind, Except.bind]
  split
  · rename_i m found
    obtain ⟨key, nonce⟩ := ofDraws?_eq_some_iff.mp found
    have front := congrArg List.length (Option.some.inj key)
    have back := congrArg List.length (Option.some.inj nonce)
    rw [List.length_take, m.key_length] at front
    rw [List.length_drop, m.nonce_length] at back
    refine absurd ?_ wrong
    unfold keyMaterialSize keySize nonceSize at *
    omega
  · rfl

theorem decode_of_size {t : Text} {b : Bytes} (read : Hex.read? t = some b)
    (size : b.length = keyMaterialSize) : ∃ m, decode t = .ok m := by
  have front : (b.take keySize).length = keySize := by
    rw [List.length_take, size]
    decide
  have back : (b.drop keySize).length = nonceSize := by
    rw [List.length_drop, size]
    decide
  refine ⟨⟨b.take keySize, b.drop keySize, front, back⟩, decode_eq_ok_iff.mpr ?_⟩
  rw [List.take_append_drop]
  exact Hex.read?_eq_some_iff.mp read

end KeyMaterial

namespace Envelope

/-- Encrypting a plaintext gives a ciphertext when the key and the nonce are the next two draws. -/
def Produces (m : KeyMaterial) (plaintext ciphertext : Bytes) : Prop :=
  ∀ w : World, w.draws.take 2 = [some m.key, some m.nonce] →
    Action.Returns (encrypt none plaintext) w (ciphertext, m) (w.drawn [keySize, nonceSize])

theorem encryptWith_eq_ok_iff {m : KeyMaterial} {plaintext ciphertext : Bytes} :
    encryptWith none m plaintext = .ok ciphertext ↔
      plaintext.length ≤ maxSize ∧
        ciphertext = Cipher.Gcm.encrypt (Cipher.Aes256.encrypt m.key) m.nonce plaintext := by
  unfold encryptWith sealWith
  by_cases long : maxSize < plaintext.length
  · simp [long, Nat.not_le.mpr long]
  · simp [long, Nat.not_lt.mp long, eq_comm]

/-- What is encrypted although the cipher may break down is encrypted without that. -/
theorem encryptWith_faultless {fault : Option CipherFault} {m : KeyMaterial} {plaintext ciphertext : Bytes}
    (sealed : encryptWith fault m plaintext = .ok ciphertext) :
    encryptWith none m plaintext = .ok ciphertext := by
  match fault with
  | none => exact sealed
  | some ⟨.setup, f⟩ => cases sealed
  | some ⟨.work, f⟩ => cases sealed

theorem length_of_encryptWith {m : KeyMaterial} {plaintext ciphertext : Bytes}
    (h : encryptWith none m plaintext = .ok ciphertext) :
    ciphertext.length = plaintext.length + Cipher.Gcm.tagSize := by
  obtain ⟨-, rfl⟩ := encryptWith_eq_ok_iff.mp h
  exact Cipher.Gcm.length_encrypt _ _ _

/-- Decrypting accepts exactly what encrypting gives. -/
theorem decrypt_eq_ok_iff {m : KeyMaterial} {plaintext ciphertext : Bytes} :
    decrypt none ciphertext (some m.key) (some m.nonce) = .ok plaintext ↔
      encryptWith none m plaintext = .ok ciphertext := by
  rw [encryptWith_eq_ok_iff, ← Cipher.Gcm.decrypt?_eq_some_iff]
  simp only [decrypt, unsealWith, KeyMaterial.ofDraws?_eq_some_iff.mpr ⟨rfl, rfl⟩]
  constructor
  · intro h
    split at h
    · contradiction
    · split at h
      · rename_i opened
        cases h
        split at opened
        · contradiction
        · rename_i short
          split at opened
          · rename_i found
            cases opened
            have length := Cipher.Gcm.length_of_decrypt? _ _ found
            exact ⟨by omega, found⟩
          · contradiction
      · contradiction
  · rintro ⟨short, found⟩
    have length := Cipher.Gcm.length_of_decrypt? _ _ found
    rw [if_neg (by omega), if_neg (by omega), found]

/-- Encrypting is drawing a key and then a nonce, whatever becomes of them. -/
theorem encrypt_run (fault : Option CipherFault) (plaintext : Bytes) (w : World) :
    (encrypt fault plaintext).run w =
      (match KeyMaterial.ofDraws? (w.draws.headD none) (w.draws.tail.headD none) with
        | none => .error (.known badDraws)
        | some m => (encryptWith fault m plaintext).map (·, m),
      w.drawn [keySize, nonceSize]) := by
  simp only [encrypt, Action.run_bind, Action.run_draw, World.nextDraw_drawn, World.drawn_drawn,
    List.singleton_append]
  cases KeyMaterial.ofDraws? (w.draws.headD none) (w.draws.tail.headD none) with
  | none => rfl
  | some m =>
    simp only [Action.run_bind, Action.run_ofExcept]
    cases encryptWith fault m plaintext <;> rfl

/-- Encrypting returns when the draws are key material and the cipher does not break down. -/
theorem encrypt_eq_ok_iff {fault : Option CipherFault} {plaintext ciphertext : Bytes} {m : KeyMaterial}
    {w : World} :
    ((encrypt fault plaintext).run w).1 = .ok (ciphertext, m) ↔
      w.draws.take 2 = [some m.key, some m.nonce] ∧ encryptWith fault m plaintext = .ok ciphertext := by
  rw [encrypt_run, ← KeyMaterial.ofDraws?_next_iff]
  cases KeyMaterial.ofDraws? (w.draws.headD none) (w.draws.tail.headD none) with
  | none => simp
  | some drawn =>
    constructor
    · intro result
      cases sealed : encryptWith fault drawn plaintext with
      | error cause => simp [sealed, Except.map] at result
      | ok c =>
        simp only [sealed, Except.map, Except.ok.injEq, Prod.mk.injEq] at result
        obtain ⟨rfl, rfl⟩ := result
        exact ⟨rfl, sealed⟩
    · rintro ⟨same, sealed⟩
      cases same
      simp only [sealed, Except.map]

theorem encrypt_returns_iff {plaintext ciphertext : Bytes} {m : KeyMaterial} {w left : World} :
    Action.Returns (encrypt none plaintext) w (ciphertext, m) left ↔
      w.draws.take 2 = [some m.key, some m.nonce] ∧ encryptWith none m plaintext = .ok ciphertext ∧
        left = w.drawn [keySize, nonceSize] := by
  rw [← and_assoc, ← encrypt_eq_ok_iff, Action.Returns.of_run (encrypt_run none plaintext w), encrypt_run]

theorem produces_iff {m : KeyMaterial} {plaintext ciphertext : Bytes} :
    Produces m plaintext ciphertext ↔ encryptWith none m plaintext = .ok ciphertext := by
  constructor
  · intro h
    let w : World := ⟨⟨[], []⟩, [some m.key, some m.nonce], [], [], [], [], []⟩
    exact (encrypt_returns_iff.mp (h w rfl)).2.1
  · intro sealed w draws
    exact encrypt_returns_iff.mpr ⟨draws, sealed, rfl⟩

theorem produces_unique {m : KeyMaterial} {plaintext first second : Bytes}
    (produced : Produces m plaintext first) (again : Produces m plaintext second) : first = second := by
  obtain ⟨-, rfl⟩ := encryptWith_eq_ok_iff.mp (produces_iff.mp produced)
  obtain ⟨-, rfl⟩ := encryptWith_eq_ok_iff.mp (produces_iff.mp again)
  rfl

def refusal (ciphertext : Bytes) : Failure :=
  if ciphertext.length < Cipher.Gcm.tagSize then .known noTag
  else if maxSize < ciphertext.length - Cipher.Gcm.tagSize then .fault tooLong
  else .known notAuthentic

/-- A refusal says nothing about the key material. -/
theorem decrypt_refuses {m : KeyMaterial} {ciphertext : Bytes} {cause : Failure}
    (failed : decrypt none ciphertext (some m.key) (some m.nonce) = .error cause) :
    cause = refusal ciphertext := by
  simp only [decrypt, KeyMaterial.ofDraws?_eq_some_iff.mpr ⟨rfl, rfl⟩, unsealWith] at failed
  unfold refusal
  by_cases tagless : ciphertext.length < Cipher.Gcm.tagSize
  · rw [if_pos tagless] at failed ⊢
    cases failed
    rfl
  · rw [if_neg tagless] at failed ⊢
    by_cases long : maxSize < ciphertext.length - Cipher.Gcm.tagSize
    · rw [if_pos long] at failed ⊢
      cases failed
      rfl
    · rw [if_neg long] at failed ⊢
      cases found : Cipher.Gcm.decrypt? (Cipher.Aes256.encrypt m.key) m.nonce ciphertext with
      | some plaintext =>
        rw [found] at failed
        cases failed
      | none =>
        rw [found] at failed
        cases failed
        rfl

/-- Below the limit of the cipher, decrypting fails by an error of decryption and no other. -/
theorem decrypt_kind {m : KeyMaterial} {ciphertext : Bytes}
    (short : ciphertext.length ≤ maxSize + Cipher.Gcm.tagSize) {cause : Failure}
    (failed : decrypt none ciphertext (some m.key) (some m.nonce) = .error cause) :
    ∃ e, cause = .known e ∧ e.kind = .decryption := by
  have within : ¬ maxSize < ciphertext.length - Cipher.Gcm.tagSize := by omega
  rw [decrypt_refuses failed, refusal, if_neg within]
  split
  · exact ⟨noTag, rfl, rfl⟩
  · exact ⟨notAuthentic, rfl, rfl⟩

/-- Decrypting inverts encrypting. A ciphertext below the limit of the cipher is accepted exactly when it
is what encrypting gives, and refused by an error of decryption otherwise; its plaintext is unique and
sixteen octets shorter, every plaintext below the limit comes back, and none has two ciphertexts. -/
theorem decrypt_inverts_encrypt (m : KeyMaterial) {ciphertext : Bytes}
    (short : ciphertext.length ≤ maxSize + Cipher.Gcm.tagSize) :
    (∀ plaintext, decrypt none ciphertext (some m.key) (some m.nonce) = .ok plaintext ↔
      Produces m plaintext ciphertext) ∧
    ((∃ e, decrypt none ciphertext (some m.key) (some m.nonce) = .error (.known e) ∧
        e.kind = .decryption) ↔ ¬ ∃ plaintext, Produces m plaintext ciphertext) ∧
    (∀ plaintext, Produces m plaintext ciphertext → ciphertext.length = plaintext.length + 16 ∧
      ∀ other, Produces m other ciphertext → other = plaintext) ∧
    (∀ plaintext, plaintext.length ≤ maxSize →
      ∃ sealed, Produces m plaintext sealed ∧
        decrypt none sealed (some m.key) (some m.nonce) = .ok plaintext) ∧
    ∀ plaintext other, decrypt none ciphertext (some m.key) (some m.nonce) = .ok plaintext →
      decrypt none other (some m.key) (some m.nonce) = .ok plaintext → other = ciphertext := by
  have accepts {c plaintext : Bytes} :
      decrypt none c (some m.key) (some m.nonce) = .ok plaintext ↔ Produces m plaintext c :=
    decrypt_eq_ok_iff.trans produces_iff.symm
  refine ⟨fun _ => accepts, ?_, ?_, ?_, ?_⟩
  · constructor
    · rintro ⟨e, failed, -⟩ ⟨plaintext, produced⟩
      rw [accepts.mpr produced] at failed
      contradiction
    · intro unsealed
      cases result : decrypt none ciphertext (some m.key) (some m.nonce) with
      | ok plaintext => exact absurd ⟨plaintext, accepts.mp result⟩ unsealed
      | error cause =>
        obtain ⟨e, rfl, kind⟩ := decrypt_kind short result
        exact ⟨e, rfl, kind⟩
  · intro plaintext produced
    refine ⟨length_of_encryptWith (produces_iff.mp produced), ?_⟩
    intro other again
    have same := (accepts.mpr again).symm.trans (accepts.mpr produced)
    exact Except.ok.inj same
  · intro plaintext within
    have sealed : encryptWith none m plaintext = .ok _ := encryptWith_eq_ok_iff.mpr ⟨within, rfl⟩
    exact ⟨_, produces_iff.mpr sealed, decrypt_eq_ok_iff.mpr sealed⟩
  · intro plaintext other opened opens
    exact produces_unique (accepts.mp opens) (accepts.mp opened)

/-- The ciphertext of three octets opens, and its first two octets are refused. -/
theorem decrypt_three_octets :
    let m : KeyMaterial := ⟨List.replicate 32 0, List.replicate 12 0, rfl, rfl⟩
    let sealed := Cipher.Gcm.encrypt (Cipher.Aes256.encrypt m.key) m.nonce [1, 2, 3]
    decrypt none sealed (some m.key) (some m.nonce) = .ok [1, 2, 3] ∧
      ∃ e, decrypt none (sealed.take 2) (some m.key) (some m.nonce) = .error (.known e) ∧
        e.kind = .decryption := by
  intro m sealed
  have length : sealed.length = 3 + 16 := Cipher.Gcm.length_encrypt _ _ _
  have limit : 19 ≤ maxSize + Cipher.Gcm.tagSize := by decide
  obtain ⟨accepts, -⟩ := decrypt_inverts_encrypt m (show sealed.length ≤ _ by omega)
  have cut : (sealed.take 2).length = 2 := by
    rw [List.length_take]
    omega
  obtain ⟨-, refuses, longer, -⟩ := decrypt_inverts_encrypt m (show (sealed.take 2).length ≤ _ by omega)
  refine ⟨(accepts _).mpr (produces_iff.mpr (encryptWith_eq_ok_iff.mpr ⟨by decide, rfl⟩)), refuses.mpr ?_⟩
  rintro ⟨plaintext, produced⟩
  have same := (longer plaintext produced).1
  omega

end Envelope
end BlobVault
