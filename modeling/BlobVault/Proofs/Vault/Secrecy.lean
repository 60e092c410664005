import BlobVault.Proofs.Audit.Sized
import BlobVault.Proofs.Vault.Twins

/-! Secrets do not show. Texts that are no keys for the same reason are refused alike, keys make the same
requests, and what they open shows nothing of its content. -/
namespace BlobVault

open BlobVault.Action (Keeps FailsOnly)

/-- Two runs show the same: they end alike and print the same on both streams. -/
structure Action.ShowAlike (first second : Except Failure α × World) : Prop where
  result : first.1 = second.1
  output : first.2.output = second.2.output
  diagnostics : first.2.diagnostics = second.2.diagnostics

theorem Action.ShowAlike.of_eq {first second : Except Failure α × World} (same : first = second) :
    ShowAlike first second := by
  subst same
  exact ⟨rfl, rfl, rfl⟩

def RetrieveOptions.under (o : RetrieveOptions) (key : Text) : RetrieveOptions :=
  { o with decryptionKey := key }

namespace Retrieve

/-- Keys are of one size, which is all that is told of them. -/
theorem download_congr (o : RetrieveOptions) (m n : KeyMaterial) (s : Session) :
    download o m s = download o n s := by
  simp only [download, m.key_length, m.nonce_length, n.key_length, n.nonce_length]

/-- What follows the download: the blob is opened, and its content is written. -/
theorem run_of_key {o : RetrieveOptions} {m : KeyMaterial} (key : KeyMaterial.decode o.decryptionKey = .ok m)
    (s : Session) :
    run o s = download o m s >>= fun ciphertext => unpack none o m ciphertext >>= save o := by
  have read : Action.ofExcept (KeyMaterial.decode o.decryptionKey) = pure m := by
    rw [key]
    rfl
  simp only [run, runUnder, content, read, bind_assoc, pure_bind]

theorem unpack_save_keeps_requests (o : RetrieveOptions) (m : KeyMaterial) (ciphertext : Bytes) :
    Keeps World.requests (unpack none o m ciphertext >>= save o) := by
  refine .bind (unpack_keeps World.tell_requests none o m ciphertext) fun plaintext => ?_
  exact save_keeps World.tell_requests (fun _ _ => rfl) o plaintext

/-- A blob that is refused is refused in a way that depends on it alone. -/
theorem unpack_save_of_refused {o : RetrieveOptions} {m : KeyMaterial} {ciphertext : Bytes} {w : World}
    {e : VaultError} (kind : e.kind = .decryption)
    (failed : ((unpack none o m ciphertext >>= save o).run w).1 = .error (.known e)) :
    (unpack none o m ciphertext >>= save o).run w = (.error (Envelope.refusal ciphertext), w) := by
  cases opened : Envelope.decrypt none ciphertext (some m.key) (some m.nonce) with
  | error cause =>
    simp only [unpack, opened, bind_assoc, Action.run_bind, Action.run_ofExcept,
      Envelope.decrypt_refuses opened]
  | ok plaintext =>
    -- Once the blob is open, what fails is the comparison of the digests or writing the file.
    have later : FailsOnly (Failure.Among [.checksumMismatch, .outputWrite])
        (unpack none o m ciphertext >>= save o) := by
      unfold unpack
      rw [opened, bind_assoc]
      apply FailsOnly.bind
      · apply FailsOnly.ofExcept
        intro cause failed
        cases failed
      · intro plaintext
        rw [bind_assoc]
        refine .bind (checkChecksum_failsOnly (by decide) o plaintext) fun _ => ?_
        rw [pure_bind]
        exact save_failsOnly (by decide) o plaintext
    have listed := later w (.known e) failed e rfl
    rw [kind] at listed
    exact absurd listed (by decide)

/-- A blob that is opened without a checksum shows nothing of its content. -/
theorem unpack_save_of_returned {o : RetrieveOptions} {m : KeyMaterial} {ciphertext : Bytes} {w : World}
    {code : Int} (unchecked : o.checksum = [])
    (returned : ((unpack none o m ciphertext >>= save o).run w).1 = .ok code) :
    ∃ files, (unpack none o m ciphertext >>= save o).run w =
      (.ok 0, { w.tell (Action.line ("[4/4] Writing decrypted file: " ++ o.output.text)) with files }) := by
  have passes (plaintext : Bytes) : checkChecksum o plaintext = pure () := by
    rw [checkChecksum, unchecked, if_pos List.isEmpty_nil]
  cases opened : Envelope.decrypt none ciphertext (some m.key) (some m.nonce) with
  | error cause =>
    simp only [unpack, opened, bind_assoc, Action.run_bind, Action.run_ofExcept] at returned
    cases returned
  | ok plaintext =>
    have reaches : (unpack none o m ciphertext >>= save o).run w = (save o plaintext).run w := by
      simp only [unpack, opened, passes, bind_assoc, pure_bind, Action.run_bind, Action.run_ofExcept]
    rw [reaches, save_run] at returned ⊢
    generalize w.tell _ = shown at returned ⊢
    by_cases opens : ∃ place, shown.files.Opens o.output place
    · obtain ⟨place, opens⟩ := opens
      rw [writeOutput_of_opens opens]
      exact ⟨_, rfl⟩
    · obtain ⟨cause, failed⟩ := writeOutput_of_closed (not_exists.mp opens) plaintext
      rw [failed] at returned
      cases returned

section Keys

variable {key other : Text} {m n : KeyMaterial} (first : KeyMaterial.decode key = .ok m)
  (second : KeyMaterial.decode other = .ok n) (o : RetrieveOptions) (s : Session) (w : World)
include first second

/-- Two keys make the same requests. -/
theorem runs_request_alike :
    ((run (o.under key) s).run w).2.requests = ((run (o.under other) s).run w).2.requests := by
  rw [run_of_key (o := o.under key) first, run_of_key (o := o.under other) second,
    Keeps.view_bind (unpack_save_keeps_requests _ m), Keeps.view_bind (unpack_save_keeps_requests _ n),
    download_congr _ m n]
  rfl

theorem runs_refused {e f : VaultError} (refused : e.kind = .decryption) (too : f.kind = .decryption)
    (failed : ((run (o.under key) s).run w).1 = .error (.known e))
    (fails : ((run (o.under other) s).run w).1 = .error (.known f)) :
    (run (o.under key) s).run w = (run (o.under other) s).run w := by
  have same : download (o.under key) m s = download (o.under other) n s := download_congr _ m n s
  rw [run_of_key (o := o.under key) first, same, Action.run_bind] at failed ⊢
  rw [run_of_key (o := o.under other) second, Action.run_bind] at fails ⊢
  rcases fetched : (download (o.under other) n s).run w with ⟨cause | ciphertext, left⟩
  · rfl
  · rw [fetched] at failed fails
    dsimp only at failed fails ⊢
    rw [unpack_save_of_refused refused failed, unpack_save_of_refused too fails]

/-- Runs that return without a checksum leave worlds that differ in files at most. -/
theorem runs_returned (unchecked : o.checksum = []) {code exit : Int}
    (returned : ((run (o.under key) s).run w).1 = .ok code)
    (returns : ((run (o.under other) s).run w).1 = .ok exit) :
    ∃ (left : World) (files others : FileSystem),
      (run (o.under key) s).run w = (.ok 0, { left with files }) ∧
      (run (o.under other) s).run w = (.ok 0, { left with files := others }) := by
  have same : download (o.under key) m s = download (o.under other) n s := download_congr _ m n s
  rw [run_of_key (o := o.under key) first, same, Action.run_bind] at returned ⊢
  rw [run_of_key (o := o.under other) second, Action.run_bind] at returns ⊢
  rcases fetched : (download (o.under other) n s).run w with ⟨cause | ciphertext, left⟩
  · rw [fetched] at returned
    cases returned
  · rw [fetched] at returned returns
    obtain ⟨files, ran⟩ := unpack_save_of_returned unchecked returned
    obtain ⟨others, ran'⟩ := unpack_save_of_returned unchecked returns
    exact ⟨_, files, others, ran, ran'⟩

end Keys

end Retrieve

namespace Signing

/-- Why a text is no seed does not depend on its octets. -/
theorem decodeSeed_of_unfit {key : Text} {b : Bytes} (read : Hex.read? key = some b) (unfit : b.length ≠ 32) :
    decodeSeed key = .error (.known (wrongSize "private key" 32)) :=
  decodeSized_of_misfit (.missized b (Hex.read?_eq_some_iff.mp read) unfit)

theorem decodeSeed_of_unread {key : Text} (unread : Hex.read? key = none) :
    decodeSeed key = .error (.known (Hex.notHex .keyFormat "private key")) :=
  decodeSized_of_misfit (.flawed (Hex.read?_eq_none_iff.mp unread))

end Signing

namespace Retrieve

variable (environment : Environment) (t : TransportOptions) (o : RetrieveOptions) (w : World)

/-- Texts that are no keys for the same reason are refused alike. -/
theorem command_of_unfit {key other : Text} {cause : Failure} (unfit : KeyMaterial.decode key = .error cause)
    (unfitToo : KeyMaterial.decode other = .error cause) :
    (command environment t (o.under key)).run w = (command environment t (o.under other)).run w := by
  rw [command_eq, command_eq]
  apply Report.guarded_congr
  intro s _
  rw [run_of_badKey (o := o.under key) unfit s w, run_of_badKey (o := o.under other) unfitToo s w]

variable {key other : Text} {m n : KeyMaterial} (first : KeyMaterial.decode key = .ok m)
  (second : KeyMaterial.decode other = .ok n)
include first second

theorem commands_request_alike :
    ((command environment t (o.under key)).run w).2.requests =
      ((command environment t (o.under other)).run w).2.requests := by
  have finishing (key : Text) := finish_keeps World.tell_requests (o.under key)
  rw [command_eq, command_eq]
  cases opened : Session.open environment t with
  | error e => rw [Report.guarded_of_closed rfl, Report.guarded_of_closed rfl]
  | ok s =>
    rw [Report.view_guarded World.tell_requests (finishing key) rfl,
      Report.view_guarded World.tell_requests (finishing other) rfl]
    exact runs_request_alike first second o s w

theorem commands_refused {e f : VaultError} (refused : e.kind = .decryption) (too : f.kind = .decryption)
    (failed : Session.Ends (Session.open environment t) (run (o.under key)) w (.error (.known e)))
    (fails : Session.Ends (Session.open environment t) (run (o.under other)) w (.error (.known f))) :
    Action.ShowAlike ((command environment t (o.under key)).run w)
      ((command environment t (o.under other)).run w) := by
  obtain ⟨s, opened, failed⟩ := failed
  rw [Session.ends_iff opened] at fails
  apply Action.ShowAlike.of_eq
  rw [command_eq, command_eq, opened]
  apply Report.guarded_congr
  rintro _ ⟨⟩
  exact runs_refused first second o s w refused too failed fails

theorem commands_returned (unchecked : o.checksum = [])
    (returned : ((command environment t (o.under key)).run w).1 = .ok 0)
    (returns : ((command environment t (o.under other)).run w).1 = .ok 0) :
    Action.ShowAlike ((command environment t (o.under key)).run w)
      ((command environment t (o.under other)).run w) := by
  obtain ⟨code, s, opened, ended⟩ := (command_classifies environment t (o.under key) w).completed.mp returned
  obtain ⟨exit, ends⟩ := (command_classifies environment t (o.under other) w).completed.mp returns
  rw [Session.ends_iff opened] at ends
  obtain ⟨left, files, others, ran, ran'⟩ := runs_returned first second o s w unchecked ended ends
  rw [command_eq, command_eq, Report.guarded_of_returned opened ran, Report.guarded_of_returned opened ran']
  exact ⟨rfl, rfl, rfl⟩

end Retrieve

/-- Keys for signing that are no keys for the same reason are refused alike. -/
theorem Evidence.sign_of_unfit {key other : Text} (given : key ≠ []) (givenToo : other ≠ []) {cause : Failure}
    (unfit : Signing.decodeSeed key = .error cause) (unfitToo : Signing.decodeSeed other = .error cause)
    (v : Verbosity) (hash : Text) : sign v ⟨hash, key⟩ = sign v ⟨hash, other⟩ := by
  simp only [sign, Signing.sign, Signing.signWith, unfit, unfitToo, List.isEmpty_iff, if_neg given,
    if_neg givenToo]

/-- Secrets do not show. Two runs of storing that draw different key material end alike, show the same and make
the same requests, but for the key in the receipt and the octets of the payloads. Two runs of retrieving under
texts that are no keys for the same reason are the same run; under two keys they make the same requests, and
they show the same if both refuse the blob or both open it unchecked. Two runs of signing under texts that are
no seeds for the same reason are the same run. -/
theorem commands_keep_secrets (environment : Environment) (t : TransportOptions) (w : World) :
    (∀ (o : StoreOptions) (m n : KeyMaterial) (draws others : List Draw),
      draws.take 2 = [some m.key, some m.nonce] → others.take 2 = [some n.key, some n.nonce] →
      let first := (Store.command environment t o).run { w with draws }
      let second := (Store.command environment t o).run { w with draws := others }
      first.1 = second.1 ∧ first.2.diagnostics = second.2.diagnostics ∧
      List.Forall₂ Request.Matches first.2.requests second.2.requests ∧
      (first.2.output = w.output ∧ second.2.output = w.output ∨ ∃ r : Receipt,
        first.2.output = w.output ++ Json.page { r with decryptionKey := m.text }.members ∧
        second.2.output = w.output ++ Json.page { r with decryptionKey := n.text }.members)) ∧
    (∀ (o : RetrieveOptions) (key other : Text),
      let session := Session.open environment t
      let first := (Retrieve.command environment t (o.under key)).run w
      let second := (Retrieve.command environment t (o.under other)).run w
      (Hex.read? key = none → Hex.read? other = none → first = second) ∧
      ∀ b c, Hex.read? key = some b → Hex.read? other = some c → b.length = c.length →
        (b.length ≠ 44 → first = second) ∧
        (b.length = 44 → first.2.requests = second.2.requests ∧
          (∀ e f, e.kind = .decryption → f.kind = .decryption →
            Session.Ends session (Retrieve.run (o.under key)) w (.error (.known e)) →
            Session.Ends session (Retrieve.run (o.under other)) w (.error (.known f)) →
            Action.ShowAlike first second) ∧
          (o.checksum = [] → first.1 = .ok 0 → second.1 = .ok 0 → Action.ShowAlike first second))) ∧
    ∀ (v : Verbosity) (hash key other : Text), key ≠ [] → other ≠ [] →
      (Hex.read? key = none ∧ Hex.read? other = none ∨
        ∃ b c, Hex.read? key = some b ∧ Hex.read? other = some c ∧ b.length ≠ 32 ∧ c.length ≠ 32) →
      (Evidence.sign v ⟨hash, key⟩).run w = (Evidence.sign v ⟨hash, other⟩).run w := by
  refine ⟨fun o m n draws others drawn drawnToo => ?_, fun o key other => ⟨?_, ?_⟩, ?_⟩
  · have alike : World.Alike (m.Next n) { w with draws } { w with draws := others } :=
      ⟨⟨drawn, drawnToo⟩, rfl, rfl, rfl, Request.matches_refl _, rfl, rfl⟩
    obtain ⟨code, left, right, after, kept, ⟨first, second⟩ | ⟨r, first, second⟩⟩ :=
      Store.command_couples m n environment t o alike
    · rw [first, second]
      exact ⟨rfl, after.diagnostics, after.requests, .inl ⟨kept, after.output ▸ kept⟩⟩
    · rw [first, second]
      refine ⟨rfl, after.diagnostics, after.requests, .inr ⟨r, ?_, ?_⟩⟩
      · exact congrArg (· ++ _) kept
      · exact congrArg (· ++ _) (after.output.symm.trans kept)
  · intro unread unreadToo
    exact Retrieve.command_of_unfit environment t o w (KeyMaterial.decode_of_unread unread)
      (KeyMaterial.decode_of_unread unreadToo)
  · intro b c read readToo size
    constructor
    · intro wrong
      have unfit := KeyMaterial.decode_of_wrongSize read wrong
      have unfitToo := KeyMaterial.decode_of_wrongSize readToo (size ▸ wrong)
      rw [← size] at unfitToo
      exact Retrieve.command_of_unfit environment t o w unfit unfitToo
    · intro fits
      obtain ⟨m, first⟩ := KeyMaterial.decode_of_size read fits
      obtain ⟨n, second⟩ := KeyMaterial.decode_of_size readToo (size.symm.trans fits)
      refine ⟨Retrieve.commands_request_alike environment t o w first second, ?_, ?_⟩
      · intro e f refused too
        exact Retrieve.commands_refused environment t o w first second refused too
      · exact Retrieve.commands_returned environment t o w first second
  · rintro v hash key other given givenToo (⟨unread, unreadToo⟩ | ⟨b, c, read, readToo, unfit, unfitToo⟩)
    · rw [Evidence.sign_of_unfit given givenToo (Signing.decodeSeed_of_unread unread)
        (Signing.decodeSeed_of_unread unreadToo)]
    · rw [Evidence.sign_of_unfit given givenToo (Signing.decodeSeed_of_unfit read unfit)
        (Signing.decodeSeed_of_unfit readToo unfitToo)]

/-- Key material of zeros and of ones, a blob that neither opens and one that the zeros open in two spellings,
and texts that are no keys. -/
theorem commands_keep_zeros_and_ones :
    let m : KeyMaterial := ⟨List.replicate 32 0, List.replicate 12 0, rfl, rfl⟩
    let n : KeyMaterial := ⟨List.replicate 32 1, List.replicate 12 1, rfl, rfl⟩
    let environment : Environment := ⟨[], .standard, 1000⟩
    let t : TransportOptions := ⟨"http://p", 30, false⟩
    let blob : Reply := ⟨200, List.replicate 16 0, [], none⟩
    let w : World := ⟨⟨[([[0x66]], .file [7])], []⟩, [], [], [blob], [], [], []⟩
    let sealed := Cipher.Gcm.encrypt (Cipher.Aes256.encrypt m.key) m.nonce [7]
    let opened : World := { w with replies := [⟨200, sealed, [], none⟩] }
    let store := Store.command environment t ⟨.ofText "/f", 1, ⟨true, true⟩⟩
    let o : RetrieveOptions := ⟨"x", [], .ofText "/g", [], ⟨true, true⟩⟩
    let retrieve (key : Text) := Retrieve.command environment t (o.under key)
    let sign (key : Text) := (Evidence.sign ⟨true, true⟩ ⟨"00", key⟩).run w
    (store.run { w with draws := [some m.key, some m.nonce] }).1 =
      (store.run { w with draws := [some n.key, some n.nonce] }).1 ∧
    (retrieve "no key").run w = (retrieve "none").run w ∧ (retrieve "00").run w = (retrieve "FF").run w ∧
    Action.ShowAlike ((retrieve m.text).run w) ((retrieve n.text).run w) ∧
    Action.ShowAlike ((retrieve m.text).run opened) ((retrieve ("0X" ++ m.text)).run opened) ∧
    sign "no key" = sign "none" ∧ sign "00" = sign "0000" := by
  intro m n environment t blob w sealed opened store o retrieve sign
  obtain ⟨stores, retrieves, signs⟩ := commands_keep_secrets environment t w
  have session : Session.open environment t = .ok ⟨"http://p", 30, false, 1000⟩ := rfl
  have spelled (m : KeyMaterial) : Hex.Spells m.text (m.key ++ m.nonce) := Hex.Respells.self _
  have marked : Hex.Spells ("0X" ++ m.text) (m.key ++ m.nonce) :=
    ⟨"0X", m.text, by decide, Hex.lowerAscii_write _, Text.Padded.self _⟩
  have read {key : Text} {b : Bytes} (spelled : Hex.Spells key b) := Hex.read?_eq_some_iff.mpr spelled
  refine ⟨?_, ?_, ?_, ?_, ?_, ?_, ?_⟩
  · obtain ⟨stored, -⟩ := stores ⟨.ofText "/f", 1, ⟨true, true⟩⟩ m n [some m.key, some m.nonce]
      [some n.key, some n.nonce] rfl rfl
    exact stored
  · obtain ⟨refused, -⟩ := retrieves o "no key" "none"
    exact refused (by decide) (by decide)
  · obtain ⟨-, short⟩ := retrieves o "00" "FF"
    exact (short [0] [0xFF] (by decide) (by decide) rfl).1 (by decide)
  · obtain ⟨-, keys⟩ := retrieves o m.text n.text
    obtain ⟨-, -, refuses, -⟩ := (keys _ _ (read (spelled m)) (read (spelled n)) rfl).imp_right (· rfl)
    refine refuses Envelope.notAuthentic Envelope.notAuthentic rfl rfl ?_ ?_
    · exact (Session.ends_iff session).mpr (by decide +kernel)
    · exact (Session.ends_iff session).mpr (by decide +kernel)
  · have returned {key : Text} (spelled : Hex.Spells key (m.key ++ m.nonce)) :
        ((retrieve key).run opened).1 = .ok 0 := by
      have authentic : Retrieve.Authentic (o.under key) opened.replies [7] m sealed := by
        constructor
        case key => exact KeyMaterial.decode_eq_ok_iff.mpr spelled
        case fetched => exact .inl (Reply.delivers_iff.mpr rfl)
        case opened => exact Envelope.produces_iff.mpr (Envelope.encryptWith_eq_ok_iff.mpr ⟨by decide, rfl⟩)
        case expected => exact fun some => absurd rfl some
      have opens : opened.files.Opens o.output [[0x67]] := ⟨rfl, rfl, rfl⟩
      obtain ⟨left, ran, -⟩ := Retrieve.run_of_opens (s := ⟨"http://p", 30, false, 1000⟩) authentic opens
      have classifies := Retrieve.command_classifies environment t (o.under key) opened
      exact classifies.completed.mpr ⟨0, _, session, congrArg Prod.fst ran⟩
    obtain ⟨-, again, -⟩ := commands_keep_secrets environment t opened
    obtain ⟨-, keys⟩ := again o m.text ("0X" ++ m.text)
    obtain ⟨-, -, -, opens⟩ := (keys _ _ (read (spelled m)) (read marked) rfl).imp_right (· rfl)
    exact opens rfl (returned (spelled m)) (returned marked)
  · exact signs _ _ _ _ (by decide) (by decide) (.inl ⟨by decide, by decide⟩)
  · exact signs _ _ _ _ (by decide) (by decide)
      (.inr ⟨[0], [0, 0], by decide, by decide, by decide, by decide⟩)

end BlobVault
