import BlobVault.Proofs.Result
import BlobVault.Proofs.Storage.BlobId
import BlobVault.Proofs.Vault.Command
import BlobVault.Proofs.Vault.Storing

/-! A blob that was uploaded is never lost. Once the publisher has named it nothing fails any more, whatever
the name is: the receipt is printed as a text that reads back, and it holds the key. -/
namespace BlobVault

open BlobVault.Action (Returns FailsOnly)

namespace Client

/-- The name of a stored blob is a text without split pairs. -/
theorem put_unpaired {s : Session} {payload : Bytes} {epochs : Int} {w left : World} {name : Text}
    (stored : Returns (put s payload epochs) w name left) : name.Unpaired := by
  obtain ⟨body, parsed⟩ := put_names stored
  exact BlobId.unpaired_parse (Utf8.plain_decodeLossy body) parsed

theorem firstSuccess_failsOnly {expected : Failure → Prop} {judge : Text → Reply → Verdict α}
    {report : Text → VaultError} (judged : ∀ url r cause, judge url r = .error cause → expected cause)
    (reported : ∀ detail, expected (.known (report detail))) (candidates : List Request) (detail : Text) :
    FailsOnly expected (firstSuccess judge report candidates detail) := by
  induction candidates generalizing detail with
  | nil => exact .throw (reported detail)
  | cons c rest ih =>
    refine .bind (.send c) fun r => ?_
    cases verdict : judge c.url r with
    | error cause => exact .throw (judged c.url r cause verdict)
    | ok settled =>
      cases settled with
      | ok v => exact .pure v
      | error next => exact ih next

theorem verdict_fault {url : Text} {r : Reply} {cause : Failure} (judged : verdict url r = .error cause) :
    ∃ f, cause = .fault f := by
  unfold verdict at judged
  split at judged
  · cases judged
  · cases judged
  · rename_i f _
    split at judged
    · cases judged
    · cases judged
      exact ⟨f, rfl⟩

theorem storeVerdict_fault {readDepth : Nat} {url : Text} {r : Reply} {cause : Failure}
    (judged : storeVerdict readDepth url r = .error cause) : ∃ f, cause = .fault f := by
  unfold storeVerdict at judged
  split at judged
  · split at judged
    · cases judged
    · cases judged
    · rename_i unknown _
      cases judged
      cases cause with
      | known e => exact absurd rfl (unknown e)
      | fault f => exact ⟨f, rfl⟩
  · cases judged
  · rename_i read
    cases judged
    exact verdict_fault read

/-- A publisher that answers the first request with a response names the blob by the id in it. -/
theorem put_of_response {style : Json.Style} (separates : style.Separates) {response : Members} {s : Session}
    (readable : Json.Readable style.ascii s.readDepth (.object response))
    (plain : ((Json.object response).write style).hasSurrogate = false) {v : Json}
    (found : BlobId.find? response = some v) {w : World}
    (reply : w.nextReply = ⟨200, ((Json.object response).write style).utf8, [], none⟩) {epochs : Int}
    {shown : Text} (written : Integer.text? epochs = some shown) (payload : Bytes) :
    ∃ left, Returns (put s payload epochs) w v.display left := by
  have parsed : BlobId.parse s.readDepth (Utf8.decodeLossy ((Json.object response).write style).utf8) =
      .ok v.display := by
    rw [Utf8.decodeLossy_utf8 plain, BlobId.parse_write separates readable, found]
  have judged : storeVerdict s.readDepth (storeRequest s payload shown "/v1/store").url w.nextReply =
      .ok (.ok v.display) := by
    rw [reply]
    exact (Stores.blobId (Reply.delivers_iff.mpr rfl) parsed).storeVerdict_eq
  rw [put_eq payload written]
  exact ⟨_, firstSuccess_run (.value judged)⟩

end Client

namespace Store

def errorKinds : List ErrorKind := [.noFile, .emptyFile, .cipherInit, .encryption, .transport]

theorem regularFile?_failsOnly (file : FilePath) :
    FailsOnly (Failure.Among errorKinds) (regularFile? file) := by
  intro w cause failed
  rw [regularFile?_run] at failed
  dsimp only at failed
  split at failed
  · cases failed
  · split at failed
    · cases failed
      exact Failure.among_fault _
    · cases failed

theorem readPlaintext_failsOnly (file : FilePath) :
    FailsOnly (Failure.Among errorKinds) (readPlaintext file) := by
  refine .bind (regularFile?_failsOnly file) fun content => ?_
  split
  · exact .throw (Failure.among_known (by decide))
  · exact .throw (Failure.among_known (by decide))
  · exact .pure _

theorem encrypt_failsOnly (plaintext : Bytes) :
    FailsOnly (Failure.Among errorKinds) (Envelope.encrypt none plaintext) := by
  refine .bind (.draw _) fun key => ?_
  refine .bind (.draw _) fun nonce => ?_
  split
  · exact .throw (Failure.among_known (by decide))
  · refine .bind (.ofExcept fun cause failed => ?_) fun ciphertext => .pure _
    unfold Envelope.encryptWith at failed
    dsimp only at failed
    split at failed
    · cases failed
    · split at failed
      · cases failed
        exact Failure.among_known (by decide)
      · cases failed
        exact Failure.among_fault _

theorem prepare_failsOnly (o : StoreOptions) (s : Session) :
    FailsOnly (Failure.Among errorKinds) (prepare o s) := by
  have traced : FailsOnly (Failure.Among errorKinds) (traceEpochs o) := by
    unfold traceEpochs
    split
    · refine .bind (.ofExcept fun cause failed => ?_) fun line => .report line
      unfold epochsLine at failed
      split at failed
      · cases failed
      · cases failed
        exact Failure.among_fault _
    · exact .pure _
  unfold prepare
  refine .bind (.report _) fun _ => ?_
  refine .bind (readPlaintext_failsOnly o.file) fun plaintext => ?_
  refine .bind (.report _) fun _ => ?_
  refine .bind (.report _) fun _ => ?_
  refine .bind (.report _) fun _ => ?_
  refine .bind (.report _) fun _ => ?_
  refine .bind (encrypt_failsOnly plaintext) fun _ => ?_
  refine .bind (.report _) fun _ => ?_
  refine .bind (.report _) fun _ => ?_
  refine .bind (.detail _ _) fun _ => ?_
  refine .bind traced fun _ => ?_
  exact .pure _

theorem put_failsOnly (s : Session) (payload : Bytes) (epochs : Int) :
    FailsOnly (Failure.Among errorKinds) (Client.put s payload epochs) := by
  unfold Client.put
  split
  · exact .throw (Failure.among_fault _)
  · refine Client.firstSuccess_failsOnly (fun url r cause judged => ?_) (fun detail => ?_) _ _
    · obtain ⟨f, rfl⟩ := Client.storeVerdict_fault judged
      exact Failure.among_fault f
    · exact Failure.among_known (by decide)

/-- The key material of a stored file passed its checks when it was drawn, so encoding it does not fail. -/
theorem run_failsOnly (o : StoreOptions) (s : Session) :
    FailsOnly (Failure.Among errorKinds) (run o s) := by
  refine .bind (prepare_failsOnly o s) fun p => ?_
  refine .bind (put_failsOnly s _ _) fun id => ?_
  -- The key material carries the proof of its sizes, so the receipt leaves no failure to account for.
  intro w cause failed
  obtain ⟨shown, ran⟩ := receipt_run p id w
  rw [ran] at failed
  cases failed

theorem size_short {n : Nat} (within : n ≤ Envelope.maxSize + Cipher.Gcm.tagSize) :
    (n : Int).natAbs < Integer.bound := by
  have limit : 10000000000 < Integer.bound := Integer.pow_lt_bound (k := 10) (by decide)
  have size : Envelope.maxSize + Cipher.Gcm.tagSize < 10000000000 := by decide
  omega

/-- A receipt reads back whatever the id is, as long as no pair in it is split. -/
theorem readable_receipt {p : Parcel}
    (sealed : Envelope.encryptWith none p.material p.plaintext = .ok p.ciphertext) {id : Text}
    (unpaired : id.Unpaired) :
    Json.Readable true 1 (.object (p.receipt id).members) := by
  have text {t : Text} (unpaired : t.Unpaired) (depth : Nat) : Json.Readable true depth (.text t) :=
    .scalar fun _ => unpaired
  have digits (b : Bytes) : (Hex.write b).Unpaired := Text.unpaired_of_plain (Hex.hasSurrogate_write b)
  have size {n : Nat} (within : n ≤ Envelope.maxSize + Cipher.Gcm.tagSize) (depth : Nat) :
      Json.Readable true depth (.nat n) := .scalar (size_short within)
  obtain ⟨within, -⟩ := Envelope.encryptWith_eq_ok_iff.mp sealed
  have longer := Envelope.length_of_encryptWith sealed
  apply Json.Readable.ofNames ["blob_id", "decryption_key", "checksum", "original_size", "encrypted_size"] rfl
  · decide
  · decide
  · simp only [Receipt.members, Parcel.receipt, List.forall_mem_cons]
    refine ⟨text unpaired _, text (digits _) _, text (digits _) _, size ?_ _, size ?_ _, ?_⟩
    · omega
    · omega
    · exact fun _ member => absurd member List.not_mem_nil

/-- Whatever is stored, its receipt reads back. -/
theorem readable_of_run {o : StoreOptions} {s : Session} {w left : World} {r : Receipt}
    (stored : Returns (run o s) w r left) : Json.Readable true 1 (.object r.members) := by
  simp only [run, Returns.bind_iff] at stored
  obtain ⟨p, _, ready, id, uploaded, named, received⟩ := stored
  obtain ⟨told, ran⟩ := receipt_run p id uploaded
  obtain ⟨same, -⟩ := (Returns.of_run ran).mp received
  cases same
  exact readable_receipt (prepare_returns ready).sealed (Client.put_unpaired named)

/-- A stored file is accounted for: what was uploaded is its content under the drawn key material, and the
output reads as an object that holds the id and the key. -/
structure Issued (o : StoreOptions) (before after : World) (p : Parcel) (id : Text) : Prop where
  content : before.files.read? o.file = some p.plaintext
  draws : before.draws.take 2 = [some p.material.key, some p.material.nonce]
  uploads : ∃ made, made ≠ [] ∧ after.requests = before.requests ++ made ∧
    ∀ request ∈ made, request.payload = some p.ciphertext
  opens : Envelope.decrypt none p.ciphertext (some p.material.key) (some p.material.nonce) =
    .ok p.plaintext
  printed : ∃ shown members key, after.output = before.output ++ shown ∧
    Json.ReadsAs 1 shown (.object members) ∧ Members.get? "blob_id" members = some (.text id) ∧
    Members.get? "decryption_key" members = some (.text key) ∧ KeyMaterial.decode key = .ok p.material

def closing : Text :=
  Action.line [] ++ Action.line "Success! File encrypted and stored on Walrus." ++
    Action.line "CRITICAL: Save the 'decryption_key' securely. It cannot be recovered!"

/-- After a run that returns, the command prints the receipt and cannot fail. -/
theorem finish_run {r : Receipt} (readable : Json.Readable true 1 (.object r.members))
    (w : World) : (finish r).run w = (.ok 0, (w.printed (Json.page r.members)).tell closing) := by
  simp only [finish, Action.run_bind, Action.printJson_eq readable, Action.run_report, World.tell_tell,
    Action.run_pure]
  rfl

/-- The command goes on to its end after the upload. -/
theorem command_run {environment : Environment} {t : TransportOptions} {s : Session}
    (session : Session.open environment t = .ok s) {o : StoreOptions} {w left : World} {r : Receipt}
    (stored : Returns (run o s) w r left) :
    Returns (command environment t o) w 0 ((left.printed (Json.page r.members)).tell closing) := by
  unfold Returns
  rw [command, Report.guarded_of_returned session stored, finish_run (readable_of_run stored)]

/-- No uploaded blob is lost. Once the publisher has named it, the receipt is made, the command ends with
exit code zero, and its output holds the id and the key that opens what was uploaded. No run of storing fails
for the format of a key. -/
theorem command_of_put {environment : Environment} {t : TransportOptions} {s : Session}
    (session : Session.open environment t = .ok s) {o : StoreOptions} {w prepared uploaded : World}
    {p : Parcel} {id : Text} (ready : Returns (prepare o s) w p prepared)
    (named : Returns (Client.put s p.ciphertext o.epochs) prepared id uploaded) :
    (∃ r left, Returns (receipt p id) uploaded r left ∧ Returns (run o s) w r left) ∧
    (∃ left, Returns (command environment t o) w 0 left ∧ Issued o w left p id) ∧
    ∀ (o : StoreOptions) (s : Session) (w : World) (e : VaultError),
      ((run o s).run w).1 = .error (.known e) → e.kind ≠ .keyFormat := by
  obtain ⟨content, -, draws, sealed, shown, rfl⟩ := prepare_returns ready
  obtain ⟨told, received⟩ := receipt_run p id uploaded
  have stored : Returns (run o s) w (p.receipt id) (uploaded.tell told) :=
    Returns.bind_iff.mpr ⟨p, _, ready, Returns.bind_iff.mpr ⟨id, uploaded, named, received⟩⟩
  have readable := readable_receipt sealed (Client.put_unpaired named)
  have ended := command_run session stored
  obtain ⟨made, some, rfl, carried⟩ := Client.put_returns named
  refine ⟨⟨_, _, received, stored⟩, ⟨_, ended, ?_⟩, ?_⟩
  · constructor
    case content => exact content
    case draws => exact draws
    case uploads => exact ⟨made, some, rfl, carried⟩
    case opens => exact Envelope.decrypt_eq_ok_iff.mpr sealed
    case printed =>
      refine ⟨_, (p.receipt id).members, p.material.text, rfl, Json.readsAs_page readable, rfl, rfl, ?_⟩
      exact KeyMaterial.decode_eq_ok_iff.mpr (Hex.Respells.self _)
  · intro o s w e failed format
    have listed := run_failsOnly o s w (.known e) failed e rfl
    rw [format] at listed
    exact absurd listed (by decide)

/-- A blob whose name is a quote, an escape sequence and a surrogate. -/
theorem command_of_put_controls :
    let id : Text := [0x22, 0x1B, 0x5B, 0x6D, 0xD800]
    let response : Members := [("newlyCreated", .object [("blobId", .text id)])]
    let o : StoreOptions := ⟨.ofText "/f", 1, ⟨false, false⟩⟩
    let w : World := ⟨⟨[([[0x66]], .file [7])], []⟩,
      [some (List.replicate 32 0), some (List.replicate 12 0)], [],
      [⟨200, Text.utf8 ((Json.object response).write .indented), [], none⟩], [], [], []⟩
    ∃ p left, Returns (command ⟨[], .standard, 2⟩ ⟨"http://p", 30, false⟩ o) w 0 left ∧ Issued o w left p id := by
  intro id response o w
  let m : KeyMaterial := ⟨List.replicate 32 0, List.replicate 12 0, rfl, rfl⟩
  let s : Session := ⟨"http://p", 30, false, 2⟩
  have session : Session.open ⟨[], .standard, 2⟩ ⟨"http://p", 30, false⟩ = .ok s := rfl
  have unpaired : id.Unpaired := by
    unfold Text.Unpaired
    decide
  have readable : Json.Readable true 2 (.object response) :=
    .single (fun _ => Text.unpaired_of_plain rfl)
      (.single (fun _ => Text.unpaired_of_plain rfl) (.scalar fun _ => unpaired))
  have separates := Json.indented_separates
  have plain : ((Json.object response).write .indented).hasSurrogate = false :=
    (Json.shown_writeAt separates readable 0).plain
  have content : w.files.read? o.file = some [7] := by decide
  have written : Integer.text? 1 = some (.ofInt 1) :=
    if_pos (Integer.pow_lt_bound (k := 0) (by decide))
  obtain ⟨prepared, ready⟩ := prepare_of_content (o := o) (m := m) rfl rfl content (List.cons_ne_nil 7 []) rfl
    (Envelope.encryptWith_eq_ok_iff.mpr ⟨by decide, rfl⟩) written s
  obtain ⟨told, world⟩ := (prepare_returns ready).world
  have reply : prepared.nextReply = w.nextReply := by rw [world]; rfl
  obtain ⟨uploaded, named⟩ := Client.put_of_response (s := s) separates readable plain (v := .text id) rfl reply
    written _
  obtain ⟨-, ⟨left, ended, issued⟩, -⟩ := command_of_put session ready named
  exact ⟨_, left, ended, issued⟩

end Store

end BlobVault
