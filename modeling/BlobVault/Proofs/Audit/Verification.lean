import BlobVault.Proofs.Audit.Signing
import BlobVault.Proofs.Vault.Report

/-! Signing and verifying are defined on well-formed texts. The first text that does not fit is named in the
error; behind the three of them there is an answer, which depends on the octets alone. A scheme is only asked
about keys and signatures of the sizes that it takes, so what it does with others never shows. -/
namespace BlobVault

open BlobVault.Action (Returns)

namespace Signing

/-- On seeds, keys and signatures of its sizes the scheme is Ed25519. -/
structure Scheme.Standard (s : Scheme) : Prop where
  loadSeed : ∀ seed, seed.length = Ed25519.seedSize → s.loadSeed seed = .ok ()
  sign : ∀ seed message, seed.length = Ed25519.seedSize →
    s.sign seed message = .ok ⟨Hex.write (Ed25519.sign seed message), Hex.write (Ed25519.publicKey seed)⟩
  loadKey : ∀ publicKey, publicKey.length = Ed25519.publicKeySize → s.loadKey publicKey = .ok ()
  verify : ∀ publicKey message signature, publicKey.length = Ed25519.publicKeySize →
    signature.length = Ed25519.signatureSize →
    s.verify publicKey message signature = .ok (Ed25519.verify publicKey message signature)

theorem Scheme.standard_ed25519 : Scheme.ed25519.Standard :=
  ⟨fun _ _ => rfl, fun _ _ _ => rfl, fun _ _ => rfl, fun _ _ _ _ _ => rfl⟩

def unfit (message : Text) : Failure := .crash .value [message]

/-- The scheme that breaks down over everything of another size. -/
def Scheme.strict : Scheme where
  loadSeed seed :=
    if seed.length = Ed25519.seedSize then .ok ()
    else .error (unfit "The seed must be exactly 32 bytes long")
  sign := Scheme.ed25519.sign
  loadKey publicKey :=
    if publicKey.length = Ed25519.publicKeySize then .ok ()
    else .error (unfit "The key must be exactly 32 bytes long")
  verify publicKey message signature :=
    if signature.length = Ed25519.signatureSize then .ok (Ed25519.verify publicKey message signature)
    else .error (unfit "The signature must be exactly 64 bytes long")

theorem Scheme.standard_strict : Scheme.strict.Standard :=
  ⟨fun _ sized => if_pos sized, fun _ _ _ => rfl, fun _ sized => if_pos sized, fun _ _ _ _ sized => if_pos sized⟩

def Misfit (what : Text) (size : Nat) (t : Text) (e : VaultError) : Prop :=
  Hex.Misfit what size (fun _ => wrongSize what size) t e

/-- What signing comes to. The hash is read before the seed. -/
inductive SignsTo (hash seed : Text) : Except Failure Signed → Prop where
  | hash : Hex.Flaw hash → SignsTo hash seed (.error (.known (Hex.notHex .keyFormat "record hash")))
  | seed (message : Bytes) (e : VaultError) : Hex.Spells hash message → Misfit "private key" 32 seed e →
      SignsTo hash seed (.error (.known e))
  | signed (message octets : Bytes) : Hex.Spells hash message → Hex.Fits 32 seed octets →
      SignsTo hash seed
        (.ok ⟨Hex.write (Ed25519.sign octets message), Hex.write (Ed25519.publicKey octets)⟩)

/-- What verifying comes to. The hash is read first, then the public key, then the signature. -/
inductive VerifiesTo (publicKey hash signature : Text) : Except Failure Bool → Prop where
  | hash : Hex.Flaw hash →
      VerifiesTo publicKey hash signature (.error (.known (Hex.notHex .keyFormat "record hash")))
  | publicKey (message : Bytes) (e : VaultError) : Hex.Spells hash message →
      Misfit "public key" 32 publicKey e → VerifiesTo publicKey hash signature (.error (.known e))
  | signature (message key : Bytes) (e : VaultError) : Hex.Spells hash message →
      Hex.Fits 32 publicKey key → Misfit "signature" 64 signature e →
      VerifiesTo publicKey hash signature (.error (.known e))
  | answered (message key octets : Bytes) : Hex.Spells hash message → Hex.Fits 32 publicKey key →
      Hex.Fits 64 signature octets →
      VerifiesTo publicKey hash signature (.ok (Ed25519.verify key message octets))

theorem Misfit.kind {what : Text} {size : Nat} {t : Text} {e : VaultError} (misfit : Misfit what size t e) :
    e.kind = .keyFormat :=
  Hex.Misfit.kind misfit fun _ => rfl

theorem decodeHash_of_flaw {hash : Text} (flaw : Hex.Flaw hash) :
    decodeHash hash = .error (.known (Hex.notHex .keyFormat "record hash")) :=
  Hex.decodeKey_of_flaw flaw "record hash"

section Ends

variable {s : Scheme} {publicKey hash signature seed : Text}

theorem SignsTo.total (hash seed : Text) : ∃ result, SignsTo hash seed result := by
  cases read : Hex.read? hash with
  | none => exact ⟨_, .hash (Hex.read?_eq_none_iff.mp read)⟩
  | some message =>
    have spelled := Hex.read?_eq_some_iff.mp read
    rcases Hex.fits_or_misfit "private key" 32 (fun _ => wrongSize "private key" 32) seed with
      ⟨octets, fits⟩ | ⟨e, misfit⟩
    · exact ⟨_, .signed message octets spelled fits⟩
    · exact ⟨_, .seed message e spelled misfit⟩

theorem SignsTo.result_eq (standard : s.Standard) {result : Except Failure Signed}
    (ends : SignsTo hash seed result) : signWith s hash seed = result := by
  cases ends with
  | hash flaw => simp only [signWith, decodeHash_of_flaw flaw, bind, Except.bind]
  | seed message e spelled misfit =>
    have refused := decodeSized_of_misfit misfit
    simp only [signWith, decodeHash_of_spells spelled, decodeSeed, refused, Ed25519.seedSize, bind, Except.bind]
  | signed message octets spelled fits =>
    have read := decodeSized_of_spells fits.spelled fits.length "private key"
    simp only [signWith, decodeHash_of_spells spelled, decodeSeed, read, Ed25519.seedSize, bind, Except.bind,
      standard.loadSeed octets fits.length, standard.sign octets message fits.length]

theorem VerifiesTo.total (publicKey hash signature : Text) :
    ∃ result, VerifiesTo publicKey hash signature result := by
  cases read : Hex.read? hash with
  | none => exact ⟨_, .hash (Hex.read?_eq_none_iff.mp read)⟩
  | some message =>
    have spelled := Hex.read?_eq_some_iff.mp read
    rcases Hex.fits_or_misfit "public key" 32 (fun _ => wrongSize "public key" 32) publicKey with
      ⟨key, fits⟩ | ⟨e, misfit⟩
    · rcases Hex.fits_or_misfit "signature" 64 (fun _ => wrongSize "signature" 64) signature with
        ⟨octets, sized⟩ | ⟨e, misfit⟩
      · exact ⟨_, .answered message key octets spelled fits sized⟩
      · exact ⟨_, .signature message key e spelled fits misfit⟩
    · exact ⟨_, .publicKey message e spelled misfit⟩

theorem VerifiesTo.result_eq (standard : s.Standard) {result : Except Failure Bool}
    (ends : VerifiesTo publicKey hash signature result) : verifyWith s publicKey hash signature = result := by
  cases ends with
  | hash flaw => simp only [verifyWith, decodeHash_of_flaw flaw, bind, Except.bind]
  | publicKey message e spelled misfit =>
    have refused := decodeSized_of_misfit misfit
    simp only [verifyWith, decodeHash_of_spells spelled, Ed25519.publicKeySize, refused, bind, Except.bind]
  | signature message key e spelled fits misfit =>
    have read := decodeSized_of_spells fits.spelled fits.length "public key"
    have refused := decodeSized_of_misfit misfit
    simp only [verifyWith, decodeHash_of_spells spelled, Ed25519.publicKeySize, Ed25519.signatureSize, read,
      standard.loadKey key fits.length, refused, bind, Except.bind]
  | answered message key octets spelled fits sized =>
    have read := decodeSized_of_spells fits.spelled fits.length "public key"
    have signed := decodeSized_of_spells sized.spelled sized.length "signature"
    simp only [verifyWith, decodeHash_of_spells spelled, Ed25519.publicKeySize, Ed25519.signatureSize, read,
      standard.loadKey key fits.length, signed, bind, Except.bind]
    exact standard.verify key message octets fits.length sized.length

theorem signWith_eq_iff (standard : s.Standard) {result : Except Failure Signed} :
    signWith s hash seed = result ↔ SignsTo hash seed result :=
  eq_iff_of_total (SignsTo.total hash seed) fun _ ends => ends.result_eq standard

theorem verifyWith_eq_iff (standard : s.Standard) {result : Except Failure Bool} :
    verifyWith s publicKey hash signature = result ↔ VerifiesTo publicKey hash signature result :=
  eq_iff_of_total (VerifiesTo.total publicKey hash signature) fun _ ends => ends.result_eq standard

theorem sign_eq_iff {result : Except Failure Signed} : sign hash seed = result ↔ SignsTo hash seed result :=
  signWith_eq_iff Scheme.standard_ed25519

theorem verify_eq_iff {result : Except Failure Bool} :
    verify publicKey hash signature = result ↔ VerifiesTo publicKey hash signature result :=
  verifyWith_eq_iff Scheme.standard_ed25519

end Ends

theorem SignsTo.kind {hash seed : Text} {cause : Failure} (ends : SignsTo hash seed (.error cause)) :
    ∃ e, cause = .known e ∧ e.kind = .keyFormat := by
  cases ends with
  | hash => exact ⟨_, rfl, rfl⟩
  | seed message e spelled misfit => exact ⟨e, rfl, misfit.kind⟩

theorem VerifiesTo.kind {publicKey hash signature : Text} {cause : Failure}
    (ends : VerifiesTo publicKey hash signature (.error cause)) :
    ∃ e, cause = .known e ∧ e.kind = .keyFormat := by
  cases ends with
  | hash => exact ⟨_, rfl, rfl⟩
  | publicKey message e spelled misfit => exact ⟨e, rfl, misfit.kind⟩
  | signature message key e spelled fits misfit => exact ⟨e, rfl, misfit.kind⟩

/-- Texts that spell the same octets, if any: they differ in letter case, in their prefix and in the blanks
around them, or neither of them is hexadecimal. -/
def Alike (t u : Text) : Prop := ∀ b, Hex.Spells t b ↔ Hex.Spells u b

theorem Alike.read? {t u : Text} (alike : Alike t u) : Hex.read? t = Hex.read? u := by
  ext b
  rw [Hex.read?_eq_some_iff, Hex.read?_eq_some_iff, alike b]

theorem alike_of_spells {t u : Text} {b : Bytes} (first : Hex.Spells t b) (second : Hex.Spells u b) :
    Alike t u := by
  intro c
  rw [← Hex.read?_eq_some_iff, ← Hex.read?_eq_some_iff, Hex.read?_eq_some_iff.mpr first,
    Hex.read?_eq_some_iff.mpr second]

theorem decodeKey_congr {t u : Text} (alike : Alike t u) (what : Text) :
    Hex.decodeKey what t = Hex.decodeKey what u := by
  rw [Hex.decodeKey, Hex.decodeKey, alike.read?]

/-- Verifying depends on the octets alone, which it decodes from texts. -/
theorem verify_congr {publicKey keyAgain hash hashAgain signature signatureAgain : Text}
    (keyed : Alike publicKey keyAgain) (hashed : Alike hash hashAgain) (signed : Alike signature signatureAgain) :
    verify publicKey hash signature = verify keyAgain hashAgain signatureAgain := by
  simp only [verify, verifyWith, decodeHash, decodeSized, decodeKey_congr keyed, decodeKey_congr hashed,
    decodeKey_congr signed]

end Signing

namespace Evidence

/-- What the command of verifying shows, and the exit code that goes with it. An answer is printed with the hash
as it was given. Of texts that are malformed nothing is printed. -/
inductive Reports (o : VerifyOptions) (w : World) : Int → World → Prop where
  | valid (shown : Text) : Signing.verify o.publicKey o.recordHash o.signature = .ok true →
      Json.ReadsAs 1 shown (.object (verifiedMembers o.recordHash true)) → Reports o w 0 (w.printed shown)
  | invalid (shown : Text) : Signing.verify o.publicKey o.recordHash o.signature = .ok false →
      Json.ReadsAs 1 shown (.object (verifiedMembers o.recordHash false)) →
      Reports o w 1 ((w.printed shown).tell "Signature does not match the record hash.\n")
  | malformed (e : VaultError) :
      Signing.verify o.publicKey o.recordHash o.signature = .error (.known e) → e.kind = .keyFormat →
      Reports o w 3 (w.tell (Action.line ("Invalid input: " ++ e.message)))

theorem spells_of_verified {publicKey hash signature : Text} {valid : Bool}
    (verified : Signing.verify publicKey hash signature = .ok valid) : ∃ message, Hex.Spells hash message := by
  cases Signing.verify_eq_iff.mp verified with
  | answered message _ _ spelled _ _ => exact ⟨message, spelled⟩

/-- The command of verifying always returns. -/
theorem verify_reports (o : VerifyOptions) (w : World) :
    ∃ code left, Returns (verify o) w code left ∧ Reports o w code left := by
  unfold Returns
  cases verified : Signing.verify o.publicKey o.recordHash o.signature with
  | ok valid =>
    -- A hash that spells octets is plain, so echoing it cannot fail.
    obtain ⟨message, spelled⟩ := spells_of_verified verified
    have readable := readable_verified (Hex.plain_of_spells spelled) valid
    have read := Json.readsAs_page readable
    unfold verifiedMembers at readable
    simp only [verify, orReport, verified, Action.run_bind, Action.printJson_eq readable]
    cases valid with
    | true => exact ⟨0, _, rfl, .valid _ verified read⟩
    | false =>
      have told : Action.line "Signature does not match the record hash." =
        "Signature does not match the record hash.\n" := Action.line_of_clear (by decide) (by decide)
      simp only [Bool.false_eq_true, if_false, Action.run_bind, Action.run_report, told]
      exact ⟨1, _, rfl, .invalid _ verified read⟩
  | error cause =>
    obtain ⟨e, rfl, kind⟩ := (Signing.verify_eq_iff.mp verified).kind
    simp only [verify, orReport, verified, Report.run_error, kind]
    exact ⟨3, _, rfl, .malformed e verified kind⟩

/-- Malformed texts are told from signatures that do not match. Whatever scheme is behind it, verifying answers
when the three texts are well-formed, with what Ed25519 says of their octets, and else fails over the first that
is not; signing fails likewise over hash and seed. No other error is possible, texts that spell the same octets
are treated alike, and the command exits with 0, 1 or 3 over a valid, an invalid or a malformed signature. -/
theorem verify_decides :
    (∀ s : Signing.Scheme, s.Standard → ∀ publicKey hash signature seed,
      (∀ result, Signing.verifyWith s publicKey hash signature = result ↔
        Signing.VerifiesTo publicKey hash signature result) ∧
      ∀ result, Signing.signWith s hash seed = result ↔ Signing.SignsTo hash seed result) ∧
    (∀ publicKey hash signature seed,
      (∀ result, Signing.verify publicKey hash signature = result ↔
        Signing.VerifiesTo publicKey hash signature result) ∧
      (∀ result, Signing.sign hash seed = result ↔ Signing.SignsTo hash seed result) ∧
      ∀ cause, Signing.verify publicKey hash signature = .error cause ∨ Signing.sign hash seed = .error cause →
        ∃ e, cause = .known e ∧ e.kind = .keyFormat) ∧
    (∀ publicKey keyAgain hash hashAgain signature signatureAgain, Signing.Alike publicKey keyAgain →
      Signing.Alike hash hashAgain → Signing.Alike signature signatureAgain →
      Signing.verify publicKey hash signature = Signing.verify keyAgain hashAgain signatureAgain) ∧
    ∀ o w, ∃ code left, Returns (verify o) w code left ∧ Reports o w code left := by
  refine ⟨fun s standard publicKey hash signature seed => ?_, fun publicKey hash signature seed => ?_, ?_, ?_⟩
  · exact ⟨fun _ => Signing.verifyWith_eq_iff standard, fun _ => Signing.signWith_eq_iff standard⟩
  · refine ⟨fun _ => Signing.verify_eq_iff, fun _ => Signing.sign_eq_iff, fun cause failed => ?_⟩
    rcases failed with verified | signed
    · exact (Signing.verify_eq_iff.mp verified).kind
    · exact (Signing.sign_eq_iff.mp signed).kind
  · intro _ _ _ _ _ _ keyed hashed signed
    exact Signing.verify_congr keyed hashed signed
  · exact verify_reports

/-- A scheme that breaks down over other sizes is given a hash, a key and a signature that are malformed, one
after the other, and a seed that is too short. Zeros are no signature, in any spelling of the hash. -/
theorem verify_decides_zeros :
    let zeros (size : Nat) : Text := Hex.write (List.replicate size 0)
    let s := Signing.Scheme.strict
    let w : World := ⟨⟨[], []⟩, [], [], [], [], [], []⟩
    Signing.verifyWith s "ab" "0x0xab" "ab" =
      .error (.known ⟨.keyFormat, "record hash must be a hex string"⟩) ∧
    Signing.verifyWith s "ab" " 0XAB\n" "abc" =
      .error (.known ⟨.keyFormat, "public key must be 32 bytes (64 hex characters)"⟩) ∧
    Signing.verifyWith s (zeros 32) " 0XAB\n" "abc" =
      .error (.known ⟨.keyFormat, "signature must be a hex string"⟩) ∧
    Signing.signWith s "" (zeros 31) =
      .error (.known ⟨.keyFormat, "private key must be 32 bytes (64 hex characters)"⟩) ∧
    Signing.verify (zeros 32) " 0XAB\n" (zeros 64) = Signing.verify (zeros 32) "ab" (zeros 64) ∧
    ∃ left, Returns (verify ⟨" 0XAB\n", zeros 64, zeros 32⟩) w 1 left ∧
      Json.ReadsAs 1 left.output (.object [("record_hash", .text " 0XAB\n"), ("valid", .truth false)]) := by
  intro zeros s w
  obtain ⟨any, plain, alike, reports⟩ := verify_decides
  have standard := Signing.Scheme.standard_strict
  have flawed {t : Text} (unread : Hex.read? t = none) : Hex.Flaw t := Hex.read?_eq_none_iff.mp unread
  have spelled {t : Text} {b : Bytes} (read : Hex.read? t = some b) : Hex.Spells t b :=
    Hex.read?_eq_some_iff.mp read
  have respelled : Hex.Spells " 0XAB\n" [0xAB] := spelled (by decide)
  have zero (size : Nat) : Hex.Fits size (zeros size) (List.replicate size 0) :=
    ⟨Hex.Respells.self _, List.length_replicate⟩
  refine ⟨?_, ?_, ?_, ?_, ?_, ?_⟩
  · exact ((any s standard _ _ _ "").1 _).mpr (.hash (flawed (by decide)))
  · exact ((any s standard _ _ _ "").1 _).mpr
      (.publicKey [0xAB] _ respelled (.missized [0xAB] (spelled (by decide)) (by decide)))
  · exact ((any s standard _ _ _ "").1 _).mpr
      (.signature [0xAB] _ _ respelled (zero 32) (.flawed (flawed (by decide))))
  · exact ((any s standard "" _ "" _).2 _).mpr
      (.seed [] _ (spelled (by decide)) (.missized _ (zero 31).spelled (by decide)))
  · have same := Signing.alike_of_spells respelled (Hex.Respells.self [0xAB])
    exact alike _ _ _ _ _ _ (fun _ => .rfl) same (fun _ => .rfl)
  · obtain ⟨code, left, returned, shown⟩ := reports ⟨" 0XAB\n", zeros 64, zeros 32⟩ w
    have refused : Ed25519.verify (List.replicate 32 0) [0xAB] (List.replicate 64 0) = false := by
      decide +kernel
    have answer := ((plain (zeros 32) " 0XAB\n" (zeros 64) "").1 _).mpr
      (.answered [0xAB] _ _ respelled (zero 32) (zero 64))
    rw [refused] at answer
    cases shown with
    | valid shown verified read => cases answer.symm.trans verified
    | invalid shown verified read => exact ⟨_, returned, read⟩
    | malformed e verified kind => cases answer.symm.trans verified

end Evidence
end BlobVault
