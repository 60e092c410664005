import BlobVault.Proofs.Audit.Sized
import BlobVault.Proofs.Vault.Envelope

/-! The text of key material. It reads back in every spelling, what reads as key material is a spelling of its
text, and every other text is refused by an error that says what is wrong with it. -/
namespace BlobVault

namespace Hex

/-- What spells octets is, but for the case of its digits, their text. -/
theorem lowerAscii_core {t : Text} {b : Bytes} (spelled : Spells t b) : (core t).lowerAscii = write b :=
  lowerAscii_of_readDigits? (read?_eq_some_iff.mpr spelled)

end Hex

namespace KeyMaterial

def Misfit (t : Text) (e : VaultError) : Prop := Hex.Misfit "decryption key" keyMaterialSize wrongSize t e

theorem decode_of_misfit {t : Text} {e : VaultError} (misfit : Misfit t e) : decode t = .error (.known e) := by
  cases misfit with
  | flawed flaw => exact decode_of_unread flaw.unread
  | missized b spelled other => exact decode_of_wrongSize (Hex.read?_eq_some_iff.mpr spelled) other

/-- Reading fails for texts that are no key material, and with the error that says why. -/
theorem decode_eq_error_iff {t : Text} {cause : Failure} :
    decode t = .error cause ↔ ∃ e, cause = .known e ∧ Misfit t e := by
  constructor
  · intro failed
    rcases Hex.fits_or_misfit "decryption key" keyMaterialSize wrongSize t with ⟨b, spelled, size⟩ | ⟨e, misfit⟩
    · obtain ⟨m, read⟩ := decode_of_size (Hex.read?_eq_some_iff.mpr spelled) size
      cases read.symm.trans failed
    · have same := (decode_of_misfit misfit).symm.trans failed
      exact ⟨e, (Except.error.inj same).symm, misfit⟩
  · rintro ⟨e, rfl, misfit⟩
    exact decode_of_misfit misfit

theorem decode_kind {t : Text} {cause : Failure} (failed : decode t = .error cause) :
    ∃ e, cause = .known e ∧ e.kind = .keyFormat := by
  obtain ⟨e, rfl, misfit⟩ := decode_eq_error_iff.mp failed
  exact ⟨e, rfl, misfit.kind fun _ => rfl⟩

theorem length_material (m : KeyMaterial) : (m.key ++ m.nonce).length = 44 := by
  rw [List.length_append, m.key_length, m.nonce_length]
  rfl

theorem encode_of_unfit {key nonce : Draw}
    (unfit : ¬ ∃ k n, key = some k ∧ nonce = some n ∧ k.length = 32 ∧ n.length = 12) :
    encode key nonce = .error (.known notEncodable) := by
  unfold encode
  split
  · rename_i m found
    obtain ⟨rfl, rfl⟩ := ofDraws?_eq_some_iff.mp found
    exact absurd ⟨m.key, m.nonce, rfl, rfl, m.key_length, m.nonce_length⟩ unfit
  · rfl

/-- Key material and its text. Every spelling of the text reads as the key material. What reads as key material
has as its text the 88 digits of the text that was read, in lower case. Every other text is refused by an error
of the key's format that says why, and so are values that are no octets of the right sizes. -/
theorem text_codec :
    (∀ m : KeyMaterial, ∃ t, encode (some m.key) (some m.nonce) = .ok t ∧
      ∀ spelling, Hex.Respells t spelling → decode spelling = .ok m) ∧
    (∀ t m, decode t = .ok m → ∃ marker ∈ Hex.markers, ∃ digits, Text.Padded (marker ++ digits) t ∧
      digits = Hex.core t ∧ digits.length = 88 ∧
      encode (some m.key) (some m.nonce) = .ok digits.lowerAscii) ∧
    (∀ t, (∃ m, decode t = .ok m) ∨
      ∃ e, decode t = .error (.known e) ∧ e.kind = .keyFormat ∧ Misfit t e) ∧
    (∀ t e, Misfit t e → decode t = .error (.known e)) ∧
    ∀ key nonce, (¬ ∃ k n, key = some k ∧ nonce = some n ∧ k.length = 32 ∧ n.length = 12) →
      encode key nonce = .error (.known notEncodable) := by
  refine ⟨?_, ?_, ?_, ?_, ?_⟩
  · intro m
    exact ⟨m.text, encode_eq m, fun spelling spelled => decode_eq_ok_iff.mpr spelled⟩
  · intro t m read
    have spelled := decode_eq_ok_iff.mp read
    have lower := Hex.lowerAscii_core spelled
    have length := congrArg List.length lower
    rw [Text.lowerAscii, List.length_map, Hex.length_write, length_material] at length
    obtain ⟨marker, known, padded⟩ := Hex.padded_core t
    exact ⟨marker, known, Hex.core t, padded, rfl, length, lower ▸ encode_eq m⟩
  · intro t
    cases read : decode t with
    | ok m => exact .inl ⟨m, rfl⟩
    | error cause =>
      obtain ⟨e, rfl, misfit⟩ := decode_eq_error_iff.mp read
      exact .inr ⟨e, rfl, misfit.kind fun _ => rfl, misfit⟩
  · exact fun t e => decode_of_misfit
  · exact fun key nonce => encode_of_unfit

/-- Capitals between blanks behind a prefix, a second prefix, a text that is one octet short, and a value that is
no octets. -/
theorem text_codec_spelled :
    let m : KeyMaterial := ⟨List.replicate 32 0xAB, List.replicate 12 0xCD, rfl, rfl⟩
    let space : Text := [0x2003]
    let capitals : Text := (List.replicate 32 ("AB" : Text)).flatten ++ (List.replicate 12 ("CD" : Text)).flatten
    let spelling : Text := space ++ ("0X" ++ capitals) ++ "\n"
    decode spelling = .ok m ∧
      decode (("0x0X" : Text) ++ m.text) = .error (.known (Hex.notHex .keyFormat "decryption key")) ∧
      decode (m.text.take 86) = .error (.known (wrongSize 43)) ∧
      encode none (some m.nonce) = .error (.known notEncodable) := by
  intro m space capitals spelling
  obtain ⟨reads, -, -, refuses, unfit⟩ := text_codec
  refine ⟨?_, ?_, ?_, ?_⟩
  · obtain ⟨t, encoded, spelled⟩ := reads m
    obtain rfl := Except.ok.inj ((encode_eq m).symm.trans encoded)
    refine spelled _ ⟨"0X", capitals, by decide, by decide +kernel, space, "\n", ?_, ?_, rfl⟩
    · exact List.forall_mem_singleton.mpr rfl
    · exact List.forall_mem_singleton.mpr rfl
  · exact refuses _ _ (.flawed (.secondPrefix "0X" m.text (by decide) (by decide) (by decide +kernel)))
  · have spelled : Hex.Spells (m.text.take 86) ((m.key ++ m.nonce).take 43) :=
      Hex.read?_eq_some_iff.mp (by decide +kernel)
    have size : ((m.key ++ m.nonce).take 43).length = 43 := by decide
    rw [← size]
    exact refuses _ _ (.missized _ spelled (by rw [size]; decide))
  · apply unfit
    rintro ⟨_, _, same, -⟩
    contradiction

end KeyMaterial
end BlobVault
