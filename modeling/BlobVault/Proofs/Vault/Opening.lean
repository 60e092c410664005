import BlobVault.Proofs.Storage.AnyBody
import BlobVault.Proofs.Vault.Secrecy

/-! How opening an envelope fails. The sizes of key material and ciphertext are checked before the cipher is
set up, and behind them all that is expected of the cipher becomes one error, except that it runs over. A blob
that does not open ends the command without a change to a file. -/
namespace BlobVault

namespace Envelope

/-- The faults that the envelope expects of the cipher when it encrypts or when it decrypts. -/
def isCipherFault (f : Fault) : Bool := isEncryptionFault f || isDecryptionFault f

theorem isDecryptionFault_iff {f : Fault} (expected : isCipherFault f = true) :
    isDecryptionFault f = true ↔ f.kind ≠ .crash .overflow := by
  obtain ⟨kind, details⟩ := f
  simp only [isCipherFault, isEncryptionFault, isDecryptionFault, Bool.or_eq_true, decide_eq_true_eq] at *
  constructor
  · rintro known rfl
    rcases known with unfit | forgery
    · cases unfit
    · cases forgery
  · intro other
    tauto

/-- Key material and a ciphertext pass the checks of their sizes, and the cipher is set up. -/
structure Reaches (ciphertext : Bytes) (key nonce : Draw) (m : KeyMaterial) : Prop where
  material : KeyMaterial.ofDraws? key nonce = some m
  tagged : Cipher.Gcm.tagSize ≤ ciphertext.length

def Overlong (ciphertext : Bytes) : Prop := maxSize + Cipher.Gcm.tagSize < ciphertext.length

variable {fault : Option CipherFault} {ciphertext : Bytes} {key nonce : Draw} {m : KeyMaterial}

theorem decrypt_of_misfit (misfit : KeyMaterial.ofDraws? key nonce = none) :
    decrypt fault ciphertext key nonce = .error (.known badMaterial) := by
  rw [decrypt, misfit]

theorem decrypt_of_tagless (material : KeyMaterial.ofDraws? key nonce = some m)
    (tagless : ciphertext.length < Cipher.Gcm.tagSize) :
    decrypt fault ciphertext key nonce = .error (.known noTag) := by
  simp only [decrypt, material, if_pos tagless]

/-- A cipher that is struck gives no value. -/
theorem decrypt_of_struck {struck : CipherFault} (expected : isCipherFault struck.fault = true)
    (reaches : Reaches ciphertext key nonce m) :
    decrypt (some struck) ciphertext key nonce =
      .error (if struck.fault.kind = .crash .overflow then .fault struck.fault else .known notAuthentic) := by
  simp only [decrypt, reaches.material, if_neg (Nat.not_lt.mpr reaches.tagged)]
  by_cases overflow : struck.fault.kind = .crash .overflow
  · have unexpected : ¬ isDecryptionFault struck.fault = true :=
      fun known => (isDecryptionFault_iff expected).mp known overflow
    rw [if_neg unexpected, if_pos overflow]
  · rw [if_pos ((isDecryptionFault_iff expected).mpr overflow), if_neg overflow]

theorem decrypt_of_produced {plaintext : Bytes} (material : KeyMaterial.ofDraws? key nonce = some m)
    (produced : Produces m plaintext ciphertext) : decrypt none ciphertext key nonce = .ok plaintext := by
  obtain ⟨rfl, rfl⟩ := KeyMaterial.ofDraws?_eq_some_iff.mp material
  exact decrypt_eq_ok_iff.mpr (produces_iff.mp produced)

theorem decrypt_of_unproduced (reaches : Reaches ciphertext key nonce m)
    (unproduced : ¬ ∃ plaintext, Produces m plaintext ciphertext) :
    decrypt none ciphertext key nonce = .error (refusal ciphertext) := by
  obtain ⟨rfl, rfl⟩ := KeyMaterial.ofDraws?_eq_some_iff.mp reaches.material
  cases result : decrypt none ciphertext (some m.key) (some m.nonce) with
  | ok plaintext => exact absurd ⟨plaintext, produces_iff.mpr (decrypt_eq_ok_iff.mp result)⟩ unproduced
  | error cause => rw [decrypt_refuses result]

theorem refusal_of_overlong (overlong : Overlong ciphertext) : refusal ciphertext = .fault tooLong := by
  unfold Overlong at overlong
  rw [refusal, if_neg (by omega), if_pos (by omega)]

theorem refusal_of_short (tagged : Cipher.Gcm.tagSize ≤ ciphertext.length) (short : ¬ Overlong ciphertext) :
    refusal ciphertext = .known notAuthentic := by
  unfold Overlong at short
  rw [refusal, if_neg (by omega), if_neg (by omega)]

/-- Nothing that was encrypted is longer than the cipher takes. -/
theorem not_overlong_of_produces {plaintext : Bytes} (produced : Produces m plaintext ciphertext) :
    ¬ Overlong ciphertext := by
  have sealed := produces_iff.mp produced
  have length := length_of_encryptWith sealed
  have limit := (encryptWith_eq_ok_iff.mp sealed).1
  unfold Overlong
  omega

/-- What decrypting comes to, told by what stands in the way first. The cipher is only asked behind the checks
of the sizes, and it gives a value only if nothing strikes and the value was encrypted. -/
inductive DecryptsTo (fault : Option CipherFault) (ciphertext : Bytes) (key nonce : Draw) :
    Except Failure Bytes → Prop where
  | misfit : KeyMaterial.ofDraws? key nonce = none →
      DecryptsTo fault ciphertext key nonce (.error (.known badMaterial))
  | tagless (m : KeyMaterial) : KeyMaterial.ofDraws? key nonce = some m → ciphertext.length < 16 →
      DecryptsTo fault ciphertext key nonce (.error (.known noTag))
  | struck (m : KeyMaterial) (blow : CipherFault) : Reaches ciphertext key nonce m → fault = some blow →
      blow.fault.kind ≠ .crash .overflow →
      DecryptsTo fault ciphertext key nonce (.error (.known notAuthentic))
  | struckOver (m : KeyMaterial) (blow : CipherFault) : Reaches ciphertext key nonce m → fault = some blow →
      blow.fault.kind = .crash .overflow →
      DecryptsTo fault ciphertext key nonce (.error (.fault blow.fault))
  | overlong (m : KeyMaterial) : Reaches ciphertext key nonce m → fault = none → Overlong ciphertext →
      DecryptsTo fault ciphertext key nonce (.error (.fault tooLong))
  | forged (m : KeyMaterial) : Reaches ciphertext key nonce m → fault = none → ¬ Overlong ciphertext →
      (¬ ∃ plaintext, Produces m plaintext ciphertext) →
      DecryptsTo fault ciphertext key nonce (.error (.known notAuthentic))
  | opened (m : KeyMaterial) (plaintext : Bytes) : Reaches ciphertext key nonce m → fault = none →
      Produces m plaintext ciphertext → DecryptsTo fault ciphertext key nonce (.ok plaintext)

/-- The cipher is asked, and runs over: it is struck in that way, or the ciphertext is too long for it. -/
def RunsOver (fault : Option CipherFault) (ciphertext : Bytes) (key nonce : Draw) : Prop :=
  (∃ m, Reaches ciphertext key nonce m) ∧
    match fault with
    | some struck => struck.fault.kind = .crash .overflow
    | none => Overlong ciphertext

/-- Some end is always possible. -/
theorem DecryptsTo.total (fault : Option CipherFault) (ciphertext : Bytes) (key nonce : Draw) :
    ∃ result, DecryptsTo fault ciphertext key nonce result := by
  cases material : KeyMaterial.ofDraws? key nonce with
  | none => exact ⟨_, .misfit material⟩
  | some m =>
    by_cases tagless : ciphertext.length < Cipher.Gcm.tagSize
    · exact ⟨_, .tagless m material tagless⟩
    have reaches : Reaches ciphertext key nonce m := ⟨material, Nat.not_lt.mp tagless⟩
    cases fault with
    | some struck =>
      by_cases overflow : struck.fault.kind = .crash .overflow
      · exact ⟨_, .struckOver m struck reaches rfl overflow⟩
      · exact ⟨_, .struck m struck reaches rfl overflow⟩
    | none =>
      by_cases opens : ∃ plaintext, Produces m plaintext ciphertext
      · obtain ⟨plaintext, produced⟩ := opens
        exact ⟨_, .opened m plaintext reaches rfl produced⟩
      · by_cases overlong : Overlong ciphertext
        · exact ⟨_, .overlong m reaches rfl overlong⟩
        · exact ⟨_, .forged m reaches rfl overlong opens⟩

/-- The end that is possible is what decrypting comes to. -/
theorem DecryptsTo.result_eq (expected : ∀ struck ∈ fault, isCipherFault struck.fault = true)
    {result : Except Failure Bytes} (ends : DecryptsTo fault ciphertext key nonce result) :
    decrypt fault ciphertext key nonce = result := by
  cases ends with
  | misfit misfit => exact decrypt_of_misfit misfit
  | tagless m material tagless => exact decrypt_of_tagless material tagless
  | struck m blow reaches same other =>
    subst same
    rw [decrypt_of_struck (expected blow rfl) reaches, if_neg other]
  | struckOver m blow reaches same overflow =>
    subst same
    rw [decrypt_of_struck (expected blow rfl) reaches, if_pos overflow]
  | overlong m reaches same overlong =>
    subst same
    have unproduced : ¬ ∃ plaintext, Produces m plaintext ciphertext :=
      fun ⟨_, produced⟩ => not_overlong_of_produces produced overlong
    rw [decrypt_of_unproduced reaches unproduced, refusal_of_overlong overlong]
  | forged m reaches same short unproduced =>
    subst same
    rw [decrypt_of_unproduced reaches unproduced, refusal_of_short reaches.tagged short]
  | opened m plaintext reaches same produced =>
    subst same
    exact decrypt_of_produced reaches.material produced

theorem decrypt_eq_iff (expected : ∀ struck ∈ fault, isCipherFault struck.fault = true)
    {result : Except Failure Bytes} :
    decrypt fault ciphertext key nonce = result ↔ DecryptsTo fault ciphertext key nonce result :=
  eq_iff_of_total (DecryptsTo.total fault ciphertext key nonce) fun _ ends => ends.result_eq expected

/-- A cipher that runs over leaves as a fault, and every other failure is an error of decryption. -/
theorem DecryptsTo.cause_cases {cause : Failure}
    (ends : DecryptsTo fault ciphertext key nonce (.error cause)) :
    (RunsOver fault ciphertext key nonce ∧ ∃ f, cause = .fault f ∧ f.kind = .crash .overflow) ∨
      ¬ RunsOver fault ciphertext key nonce ∧ ∃ e, cause = .known e ∧ e.kind = .decryption := by
  cases ends with
  | misfit misfit =>
    refine .inr ⟨?_, _, rfl, rfl⟩
    rintro ⟨⟨m, material, -⟩, -⟩
    cases misfit.symm.trans material
  | tagless m _ short =>
    refine .inr ⟨?_, _, rfl, rfl⟩
    rintro ⟨⟨_, -, tagged⟩, -⟩
    exact absurd tagged (Nat.not_le.mpr short)
  | struck m blow reaches same other =>
    subst same
    exact .inr ⟨fun exceeds => other exceeds.2, _, rfl, rfl⟩
  | struckOver m blow reaches same overflow =>
    subst same
    exact .inl ⟨⟨⟨m, reaches⟩, overflow⟩, _, rfl, overflow⟩
  | overlong m reaches same overlong =>
    subst same
    exact .inl ⟨⟨⟨m, reaches⟩, overlong⟩, _, rfl, rfl⟩
  | forged m reaches same short unproduced =>
    subst same
    exact .inr ⟨fun exceeds => short exceeds.2, _, rfl, rfl⟩

/-- A cipher that runs over gives no value. -/
theorem DecryptsTo.not_opened {plaintext : Bytes} (exceeds : RunsOver fault ciphertext key nonce) :
    ¬ DecryptsTo fault ciphertext key nonce (.ok plaintext) := by
  rintro (_ | _ | _ | _ | _ | _ | ⟨m, _, _, rfl, produced⟩)
  exact not_overlong_of_produces produced exceeds.2

end Envelope

namespace Retrieve

/-- A blob that does not open ends the command as its cause says, before a file is written. -/
theorem commandUnder_of_refused {fault : Option CipherFault} {environment : Environment}
    {t : TransportOptions} {o : RetrieveOptions} {s : Session} {m : KeyMaterial} {w : World}
    {ciphertext : Bytes} {cause : Failure}
    (opened : Session.open environment t = .ok s) (key : KeyMaterial.decode o.decryptionKey = .ok m)
    (fetched : Client.Brings w.replies ciphertext)
    (refused : Envelope.decrypt fault ciphertext (some m.key) (some m.nonce) = .error cause) :
    ∃ left, (commandUnder fault environment t o).run w = (Report.disposal cause, left) ∧
      left.files = w.files := by
  have downloaded : (download o m s).run w = (.ok ciphertext, ((download o m s).run w).2) :=
    Prod.ext (download_returns_iff.mpr fetched) rfl
  have failed : (runUnder fault o s).run w = (.error cause, ((download o m s).run w).2) := by
    simp only [runUnder, content, key, Action.run_bind, Action.run_ofExcept]
    rw [downloaded]
    simp only [unpack, refused, Action.run_bind, Action.run_ofExcept]
  refine ⟨_, Report.guarded_of_failed opened failed, ?_⟩
  rw [World.tell_files]
  exact download_keeps World.tell_files (fun w made _ => World.sent_files w made) o m s w

end Retrieve

namespace Envelope

/-- How decrypting and the command that retrieves a blob end when a fault that is expected of the cipher may
strike it. A failure is an error of decryption, which the command reports with the exit code of its family,
except that the cipher runs over; no file changes either way. Without a fault it is the command itself. -/
structure OpensOrRefuses (fault : Option CipherFault) : Prop where
  decrypts : ∀ ciphertext key nonce result, decrypt fault ciphertext key nonce = result ↔
    DecryptsTo fault ciphertext key nonce result
  refuses : ∀ ciphertext key nonce cause, ¬ RunsOver fault ciphertext key nonce →
    decrypt fault ciphertext key nonce = .error cause → ∃ e, cause = .known e ∧ e.kind = .decryption
  overflows : ∀ ciphertext key nonce, RunsOver fault ciphertext key nonce →
    ∃ f, decrypt fault ciphertext key nonce = .error (.fault f) ∧ f.kind = .crash .overflow
  reports : ∀ environment t o s m ciphertext cause (w : World), Session.open environment t = .ok s →
    KeyMaterial.decode o.decryptionKey = .ok m → Client.Brings w.replies ciphertext →
    ¬ RunsOver fault ciphertext (some m.key) (some m.nonce) →
    decrypt fault ciphertext (some m.key) (some m.nonce) = .error cause →
    ∃ left, (Retrieve.commandUnder fault environment t o).run w = (.ok 4, left) ∧
      left.files = w.files
  leaves : ∀ environment t o s m ciphertext (w : World), Session.open environment t = .ok s →
    KeyMaterial.decode o.decryptionKey = .ok m → Client.Brings w.replies ciphertext →
    RunsOver fault ciphertext (some m.key) (some m.nonce) →
    ∃ f left, (Retrieve.commandUnder fault environment t o).run w = (.error (.fault f), left) ∧
      f.kind = .crash .overflow ∧ left.files = w.files
  unstruck : fault = none → ∀ environment t o,
    Retrieve.commandUnder fault environment t o = Retrieve.command environment t o

theorem refuses_of_within (expected : ∀ struck ∈ fault, isCipherFault struck.fault = true) {cause : Failure}
    (within : ¬ RunsOver fault ciphertext key nonce)
    (refused : decrypt fault ciphertext key nonce = .error cause) :
    ∃ e, cause = .known e ∧ e.kind = .decryption := by
  rcases ((decrypt_eq_iff expected).mp refused).cause_cases with ⟨exceeds, -⟩ | ⟨-, known⟩
  · exact absurd exceeds within
  · exact known

theorem overflows_of_runsOver (expected : ∀ struck ∈ fault, isCipherFault struck.fault = true)
    (exceeds : RunsOver fault ciphertext key nonce) :
    ∃ f, decrypt fault ciphertext key nonce = .error (.fault f) ∧ f.kind = .crash .overflow := by
  cases result : decrypt fault ciphertext key nonce with
  | ok plaintext => exact absurd ((decrypt_eq_iff expected).mp result) (DecryptsTo.not_opened exceeds)
  | error cause =>
    rcases ((decrypt_eq_iff expected).mp result).cause_cases with ⟨-, f, rfl, kind⟩ | ⟨within, -⟩
    · exact ⟨f, rfl, kind⟩
    · exact absurd exceeds within

/-- Whatever strikes the cipher of what is expected of it, decrypting opens what was encrypted or refuses it
by an error of decryption, unless the cipher runs over. -/
theorem decrypt_opensOrRefuses (expected : ∀ struck ∈ fault, isCipherFault struck.fault = true) :
    OpensOrRefuses fault := by
  constructor
  case decrypts => exact fun _ _ _ _ => decrypt_eq_iff expected
  case refuses => exact fun _ _ _ _ => refuses_of_within expected
  case overflows => exact fun _ _ _ => overflows_of_runsOver expected
  case reports =>
    intro environment t o s m ciphertext cause w opened key fetched within refused
    obtain ⟨e, rfl, kind⟩ := refuses_of_within expected within refused
    obtain ⟨left, ran, files⟩ := Retrieve.commandUnder_of_refused opened key fetched refused
    rw [Report.disposal, kind] at ran
    exact ⟨left, ran, files⟩
  case leaves =>
    intro environment t o s m ciphertext w opened key fetched exceeds
    obtain ⟨f, refused, kind⟩ := overflows_of_runsOver expected exceeds
    obtain ⟨left, ran, files⟩ := Retrieve.commandUnder_of_refused opened key fetched refused
    rw [Report.disposal, if_neg (by rw [kind]; decide)] at ran
    exact ⟨f, left, ran, kind, files⟩
  case unstruck =>
    rintro rfl environment t o
    rfl

/-- A cipher that cannot be set up, one that is never asked, and a blob without a tag. -/
theorem decrypt_opensOrRefuses_tagless :
    let m : KeyMaterial := ⟨List.replicate 32 0, List.replicate 12 0, rfl, rfl⟩
    let unset : CipherFault := ⟨.setup, ⟨.crash .type, ["key"]⟩⟩
    let overflow : CipherFault := ⟨.work, ⟨.crash .overflow, ["long"]⟩⟩
    let w : World := ⟨⟨[], []⟩, [], [], [⟨200, [1, 2, 3], [], none⟩], [], [], []⟩
    let o : RetrieveOptions := ⟨"x", m.text, .ofText "/f", "", ⟨false, false⟩⟩
    decrypt (some unset) (List.replicate 16 0) (some m.key) (some m.nonce) = .error (.known notAuthentic) ∧
      decrypt (some overflow) (List.replicate 16 0) none (some m.nonce) = .error (.known badMaterial) ∧
      ∃ left, (Retrieve.command ⟨[], ⟨1, 30⟩, 0⟩ ⟨"http://p", 0, false⟩ o).run w = (.ok 4, left) ∧
        left.files = w.files := by
  intro m unset overflow w o
  have material : KeyMaterial.ofDraws? (some m.key) (some m.nonce) = some m := rfl
  have first : OpensOrRefuses (some unset) :=
    decrypt_opensOrRefuses fun _ same => Option.some.inj same ▸ rfl
  have second : OpensOrRefuses (some overflow) :=
    decrypt_opensOrRefuses fun _ same => Option.some.inj same ▸ rfl
  have third : OpensOrRefuses none := decrypt_opensOrRefuses nofun
  have key : KeyMaterial.decode m.text = .ok m := KeyMaterial.decode_eq_ok_iff.mpr (Hex.Respells.self _)
  refine ⟨?_, ?_, ?_⟩
  · exact (first.decrypts ..).mpr (.struck m unset ⟨material, by decide⟩ rfl (by decide))
  · exact (second.decrypts ..).mpr (.misfit rfl)
  · rw [← third.unstruck rfl]
    refine third.reports ⟨[], ⟨1, 30⟩, 0⟩ ⟨"http://p", 0, false⟩ o ⟨"http://p", 30, false, 0⟩ m [1, 2, 3]
      (.known noTag) w rfl key (.inl (Reply.delivers_served _)) ?_ (decrypt_of_tagless material (by decide))
    rintro ⟨⟨_, -, tagged⟩, -⟩
    exact absurd tagged (by decide)

/-- A cipher that runs over leaves as a fault, although encrypting expects that of it. -/
theorem overflow_leaves :
    let overflow : Fault := ⟨.crash .overflow, ["x"]⟩
    isEncryptionFault overflow = true ∧
      decrypt (some ⟨.work, overflow⟩) (List.replicate 16 0) (some (List.replicate 32 0))
        (some (List.replicate 12 0)) = .error (.fault overflow) := by
  intro overflow
  exact ⟨rfl, rfl⟩

end Envelope
end BlobVault
