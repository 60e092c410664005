import BlobVault.Proofs.Storage.Fallback
import BlobVault.Proofs.Vault.Envelope
import BlobVault.Vault.Store

/-! Storing a file that succeeds: the receipt accounts for the file, the draws and the uploads. -/
namespace BlobVault.Store

open BlobVault.Action (Returns)

structure Stored (o : StoreOptions) (before after : World) (r : Receipt) (plaintext : Bytes)
    (m : KeyMaterial) (ciphertext : Bytes) : Prop where
  content : before.files.read? o.file = some plaintext
  nonempty : plaintext ≠ []
  draws : before.draws.take 2 = [some m.key, some m.nonce]
  produced : Envelope.Produces m plaintext ciphertext
  uploads : ∃ made, made ≠ [] ∧ after.requests = before.requests ++ made ∧
    ∀ request ∈ made, request.payload = some ciphertext
  files : after.files = before.files
  key : r.decryptionKey = m.text
  checksum : r.checksum = Canonical.checksum plaintext
  originalSize : r.originalSize = plaintext.length
  encryptedSize : r.encryptedSize = ciphertext.length

theorem regularFile?_run (file : FilePath) (w : World) :
    (regularFile? file).run w =
      (if file.namingFault?.isSome || file.holdsNul then .ok none
      else
        match w.files.place file with
        | .error .nameTooLong => .error (systemFault .nameTooLong file)
        | _ => .ok (w.files.read? file),
      w) := by
  simp only [regularFile?, Action.run_bind, Action.run_get]
  split
  · rfl
  · cases w.files.place file with
    | error fault => cases fault <;> rfl
    | ok place => rfl

theorem regularFile?_returns_iff {file : FilePath} {content : Bytes} {w left : World} :
    Returns (regularFile? file) w (some content) left ↔
      left = w ∧ file.namingFault?.isSome = false ∧ file.holdsNul = false ∧
        w.files.read? file = some content := by
  rw [Returns.of_run (regularFile?_run file w), and_comm, and_congr_right_iff]
  intro _
  split
  · rename_i unusable
    rw [Bool.or_eq_true] at unusable
    grind
  · rename_i usable
    simp only [Bool.or_eq_true, not_or, Bool.not_eq_true] at usable
    split
    · rename_i tooLong
      simp [FileSystem.read?, tooLong]
    · simp only [usable, true_and, Except.ok.injEq]

theorem readPlaintext_returns_iff {file : FilePath} {content : Bytes} {w left : World} :
    Returns (readPlaintext file) w content left ↔
      content ≠ [] ∧ Returns (regularFile? file) w (some content) left := by
  simp only [readPlaintext, Returns.bind_iff]
  constructor
  · rintro ⟨read, between, ran, rest⟩
    split at rest
    · cases rest
    · cases rest
    · rename_i found nonempty
      obtain ⟨rfl, rfl⟩ := Returns.pure_iff.mp rest
      exact ⟨nonempty, ran⟩
  · rintro ⟨nonempty, ran⟩
    refine ⟨some content, left, ran, ?_⟩
    cases content with
    | nil => contradiction
    | cons => exact Returns.pure_iff.mpr ⟨rfl, rfl⟩

/-- Whatever the epochs are, the line about them is all that changes. -/
theorem traceEpochs_returns {o : StoreOptions} {w left : World} {done : Unit}
    (h : Returns (traceEpochs o) w done left) : ∃ shown, left = w.tell shown := by
  unfold traceEpochs at h
  split at h
  · obtain ⟨line, between, first, rest⟩ := Returns.bind_iff.mp h
    obtain ⟨-, rfl⟩ := Returns.ofExcept_iff.mp first
    exact ⟨_, Returns.report_iff.mp rest⟩
  · obtain ⟨-, rfl⟩ := Returns.pure_iff.mp h
    exact ⟨[], by simp [World.tell]⟩

theorem traceEpochs_of_written {o : StoreOptions} {epochs : Text}
    (written : Integer.text? o.epochs = some epochs) (w : World) :
    Returns (traceEpochs o) w () (w.tell (if o.verbosity.debug then
      Action.line ("Storing the blob for " ++ epochs ++ " epochs") else [])) := by
  have line : epochsLine o.epochs = .ok ("Storing the blob for " ++ epochs ++ " epochs") := by
    unfold epochsLine
    rw [written]
  unfold traceEpochs
  split
  · exact Returns.bind_iff.mpr ⟨_, w, Returns.ofExcept_iff.mpr ⟨line, rfl⟩, Returns.report_iff.mpr rfl⟩
  · exact Returns.pure_iff.mpr ⟨rfl, by simp [World.tell]⟩

/-- The parcel accounts for the file and the draws, and no request was made for it. -/
structure Prepared (o : StoreOptions) (before after : World) (p : Parcel) : Prop where
  content : before.files.read? o.file = some p.plaintext
  nonempty : p.plaintext ≠ []
  draws : before.draws.take 2 = [some p.material.key, some p.material.nonce]
  sealed : Envelope.encryptWith none p.material p.plaintext = .ok p.ciphertext
  world : ∃ shown, after = (before.drawn [keySize, nonceSize]).tell shown

theorem prepare_returns {o : StoreOptions} {s : Session} {w left : World} {p : Parcel}
    (ready : Returns (prepare o s) w p left) : Prepared o w left p := by
  simp only [prepare, Returns.bind_iff, Returns.report_iff, Returns.detail_iff, Returns.pure_iff,
    exists_const, exists_eq_left, Prod.exists] at ready
  obtain ⟨plaintext, _, read, ciphertext, m, _, encrypted, _, _, traced, rfl, rfl⟩ := ready
  obtain ⟨nonempty, regular⟩ := readPlaintext_returns_iff.mp read
  obtain ⟨rfl, -, -, content⟩ := regularFile?_returns_iff.mp regular
  obtain ⟨draws, sealed, rfl⟩ := Envelope.encrypt_returns_iff.mp encrypted
  obtain ⟨shown, rfl⟩ := traceEpochs_returns traced
  constructor
  case content => exact content
  case nonempty => exact nonempty
  case draws => exact draws
  case sealed => exact sealed
  case world =>
    simp only [World.drawn_tell, World.tell_tell]
    exact ⟨_, rfl⟩

/-- A file is ready for its upload when it holds something, the draws are key material and the epochs can
be written. -/
theorem prepare_of_content {o : StoreOptions} {w : World} {plaintext ciphertext : Bytes}
    {m : KeyMaterial} {epochs : Text} (named : o.file.namingFault?.isSome = false)
    (whole : o.file.holdsNul = false) (content : w.files.read? o.file = some plaintext)
    (nonempty : plaintext ≠ []) (draws : w.draws.take 2 = [some m.key, some m.nonce])
    (sealed : Envelope.encryptWith none m plaintext = .ok ciphertext)
    (written : Integer.text? o.epochs = some epochs) (s : Session) :
    ∃ left, Returns (prepare o s) w ⟨plaintext, ciphertext, m⟩ left := by
  have read {w' : World} (same : w'.files = w.files) :
      Returns (readPlaintext o.file) w' plaintext w' :=
    readPlaintext_returns_iff.mpr
      ⟨nonempty, regularFile?_returns_iff.mpr ⟨rfl, named, whole, same ▸ content⟩⟩
  simp only [prepare, Returns.bind_iff, Returns.report_iff, Returns.detail_iff, Returns.pure_iff,
    exists_const, exists_eq_left, Prod.exists]
  apply Exists.intro
  exact ⟨plaintext, _, read rfl, ciphertext, m, _,
    Envelope.encrypt_returns_iff.mpr ⟨draws, sealed, rfl⟩, (), _, traceEpochs_of_written written _,
    rfl, rfl⟩

def Parcel.receipt (p : Parcel) (id : Text) : Receipt :=
  ⟨id, p.material.text, Canonical.checksum p.plaintext, p.plaintext.length, p.ciphertext.length⟩

/-- After the upload nothing can fail: the receipt is made, and more is shown. -/
theorem receipt_run (p : Parcel) (id : Text) (w : World) :
    ∃ shown, (receipt p id).run w = (.ok (p.receipt id), w.tell shown) := by
  simp only [receipt, Action.run_bind, Action.run_report, KeyMaterial.encode_eq, Action.run_ofExcept,
    Action.run_pure, World.tell_tell]
  exact ⟨_, rfl⟩

/-- A file is stored when it holds something, the draws are key material, the epochs can be written and the
publisher gives a name. -/
theorem run_of_put {o : StoreOptions} {s : Session} {w : World} {plaintext ciphertext : Bytes}
    {m : KeyMaterial} {epochs name : Text} (named : o.file.namingFault?.isSome = false)
    (whole : o.file.holdsNul = false) (content : w.files.read? o.file = some plaintext)
    (nonempty : plaintext ≠ []) (draws : w.draws.take 2 = [some m.key, some m.nonce])
    (sealed : Envelope.encryptWith none m plaintext = .ok ciphertext)
    (written : Integer.text? o.epochs = some epochs)
    (stores : ∀ w', w'.replies = w.replies →
      ((Client.put s ciphertext o.epochs).run w').1 = .ok name) :
    ∃ r left, Returns (run o s) w r left := by
  obtain ⟨between, ready⟩ := prepare_of_content named whole content nonempty draws sealed written s
  obtain ⟨shown, world⟩ := (prepare_returns ready).world
  have stored : Returns (Client.put s ciphertext o.epochs) between name _ :=
    Returns.of_returned (stores between (by simp [world]))
  obtain ⟨told, made⟩ := receipt_run ⟨plaintext, ciphertext, m⟩ name
    ((Client.put s ciphertext o.epochs).run between).2
  exact ⟨_, _, Returns.bind_iff.mpr ⟨_, _, ready, Returns.bind_iff.mpr ⟨_, _, stored, made⟩⟩⟩

theorem run_returns {o : StoreOptions} {s : Session} {w left : World} {r : Receipt}
    (stored : Returns (run o s) w r left) :
    ∃ plaintext m ciphertext, Stored o w left r plaintext m ciphertext := by
  simp only [run, Returns.bind_iff] at stored
  obtain ⟨p, _, ready, name, uploaded, put, received⟩ := stored
  have prepared := prepare_returns ready
  obtain ⟨shown, rfl⟩ := prepared.world
  obtain ⟨made, some, rfl, carried⟩ := Client.put_returns put
  obtain ⟨told, ran⟩ := receipt_run p name (World.sent ((w.drawn [keySize, nonceSize]).tell shown) made)
  obtain ⟨same, rfl⟩ := (Returns.of_run ran).mp received
  cases same
  refine ⟨p.plaintext, p.material, p.ciphertext, ?_⟩
  constructor
  case content => exact prepared.content
  case nonempty => exact prepared.nonempty
  case draws => exact prepared.draws
  case produced => exact Envelope.produces_iff.mpr prepared.sealed
  case uploads => exact ⟨made, some, by simp, carried⟩
  case files => simp
  case key | checksum | originalSize | encryptedSize => rfl

end BlobVault.Store
