import BlobVault.Audit.Signing
import BlobVault.Proofs.Text.Flaw

/-! Hexadecimal texts of a known number of octets. A text fits, and its octets are known, or it is a misfit, and
one error says why. -/
namespace BlobVault

namespace Hex

structure Fits (size : Nat) (t : Text) (b : Bytes) : Prop where
  spelled : Spells t b
  length : b.length = size

/-- A text that does not spell so many octets, and the error that says so: it is not hexadecimal, or it spells
another number of octets. -/
inductive Misfit (what : Text) (size : Nat) (wrongSize : Nat → VaultError) (t : Text) : VaultError → Prop where
  | flawed : Flaw t → Misfit what size wrongSize t (notHex .keyFormat what)
  | missized (b : Bytes) : Spells t b → b.length ≠ size → Misfit what size wrongSize t (wrongSize b.length)

variable {what : Text} {size : Nat} {wrongSize : Nat → VaultError} {t : Text} {e : VaultError}

/-- A text fits or is a misfit. -/
theorem fits_or_misfit (what : Text) (size : Nat) (wrongSize : Nat → VaultError) (t : Text) :
    (∃ b, Fits size t b) ∨ ∃ e, Misfit what size wrongSize t e := by
  cases read : read? t with
  | none => exact .inr ⟨_, .flawed (read?_eq_none_iff.mp read)⟩
  | some b =>
    rw [read?_eq_some_iff] at read
    by_cases length : b.length = size
    · exact .inl ⟨b, read, length⟩
    · exact .inr ⟨_, .missized b read length⟩

theorem Misfit.kind (misfit : Misfit what size wrongSize t e)
    (known : ∀ n, (wrongSize n).kind = .keyFormat) : e.kind = .keyFormat := by
  cases misfit with
  | flawed => rfl
  | missized b => exact known b.length

theorem decodeKey_of_spells {b : Bytes} (spelled : Spells t b) (what : Text) : decodeKey what t = .ok b := by
  rw [decodeKey, read?_eq_some_iff.mpr spelled]

theorem decodeKey_of_flaw (flaw : Flaw t) (what : Text) :
    decodeKey what t = .error (.known (notHex .keyFormat what)) := by
  rw [decodeKey, flaw.unread]

end Hex

namespace Signing

variable {what t : Text} {size : Nat}

theorem decodeSized_of_spells {b : Bytes} (spelled : Hex.Spells t b) (sized : b.length = size) (what : Text) :
    decodeSized what size t = .ok b := by
  simp only [decodeSized, Hex.decodeKey_of_spells spelled, bind, Except.bind, if_pos sized]

theorem decodeSized_of_misfit {e : VaultError}
    (misfit : Hex.Misfit what size (fun _ => wrongSize what size) t e) :
    decodeSized what size t = .error (.known e) := by
  cases misfit with
  | flawed flaw => simp only [decodeSized, Hex.decodeKey_of_flaw flaw, bind, Except.bind]
  | missized b spelled other =>
    simp only [decodeSized, Hex.decodeKey_of_spells spelled, bind, Except.bind, if_neg other]

end Signing

end BlobVault
