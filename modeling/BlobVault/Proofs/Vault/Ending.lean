import BlobVault.Proofs.Vault.Freshness
import BlobVault.Proofs.Vault.Issuing
import BlobVault.Proofs.Vault.KeyText

/-! How the commands of storing and retrieving end. The exit code tells in which way the operation ended, a
failure that no code stands for leaves as it came, and there is no output without a result. -/
namespace BlobVault

open BlobVault.Action (Returns Keeps FailsOnly)

def Session.Ends (session : Except VaultError Session) (operation : Session → Action α) (w : World)
    (result : Except Failure α) : Prop :=
  ∃ s, session = .ok s ∧ ((operation s).run w).1 = result

theorem Session.ends_iff {session : Except VaultError Session} {s : Session} (opened : session = .ok s)
    {operation : Session → Action α} {w : World} {result : Except Failure α} :
    Ends session operation w result ↔ ((operation s).run w).1 = result := by
  constructor
  · rintro ⟨other, same, ended⟩
    cases opened.symm.trans same
    exact ended
  · exact fun ended => ⟨s, opened, ended⟩

theorem Session.not_ends {session : Except VaultError Session} {e : VaultError} (closed : session = .error e)
    {operation : Session → Action α} {w : World} {result : Except Failure α} :
    ¬ Ends session operation w result := by
  rintro ⟨s, opened, -⟩
  cases closed.symm.trans opened

theorem Session.kind_of_closed {environment : Environment} {t : TransportOptions} {e : VaultError}
    (closed : Session.open environment t = .error e) : e.kind = .noPublisher := by
  unfold Session.open at closed
  dsimp only at closed
  generalize Text.dropEndWhile _ _ = publisher at closed
  split at closed
  · cases closed
    rfl
  · cases closed

namespace Report

def bannerText : Text :=
  "Program encountered an unhandled exception.\n" ++
  "If you think there's a mistake, copy this message and lines after it, and include it in your bug report for diagnostic purposes.\n" ++
  "If possible, include instructions on how to replicate the issue (what you did in order to make this happen)\n" ++
  "Exception details:\n" ++
  "-------------------------- BEGIN EXCEPTION TRACEBACK --------------------------\n"

/-- A command tells apart all ways in which its operation ends. -/
structure Classifies (session : Except VaultError Session) (operation : Session → Action α)
    (command : Action Int) (w : World) : Prop where
  completed : (command.run w).1 = .ok 0 ↔ ∃ x, Session.Ends session operation w (.ok x)
  input : (command.run w).1 = .ok 3 ↔ (∃ e, session = .error e ∧ e.kind = .noPublisher) ∨
    ∃ e, e.kind.family = .input ∧ Session.Ends session operation w (.error (.known e))
  cipher : (command.run w).1 = .ok 4 ↔
    ∃ e, e.kind.family = .cipher ∧ Session.Ends session operation w (.error (.known e))
  transport : (command.run w).1 = .ok 5 ↔
    ∃ e, e.kind.family = .transport ∧ Session.Ends session operation w (.error (.known e))
  cancelled : (command.run w).1 = .ok 130 ↔
    ∃ f, f.kind = .cancelled ∧ Session.Ends session operation w (.error (.fault f))
  others : ∀ code, (command.run w).1 = .ok code → code ∈ ([0, 3, 4, 5, 130] : List Int)
  handled : ∀ e, (command.run w).1 ≠ .error (.known e)
  leaves : ∀ f, (command.run w).1 = .error (.fault f) ↔
    f.kind ≠ .cancelled ∧ Session.Ends session operation w (.error (.fault f))
  banner : ∀ s f, session = .ok s → (command.run w).1 = .error (.fault f) →
    (command.run w).2.diagnostics = ((operation s).run w).2.diagnostics ++
      if f.kind = .interrupted then [] else bannerText

theorem banner_shown : bannerLines.flatMap Action.line = bannerText := by
  have clear : ∀ line ∈ bannerLines, ControlSequence.escape ∉ line ∧ line.hasSurrogate = false := by
    decide +kernel
  have lines : bannerLines.flatMap Action.line = bannerLines.flatMap fun line => line ++ ("\n" : Text) := by
    apply List.flatMap_congr
    intro line member
    obtain ⟨escapeless, plain⟩ := clear line member
    exact Action.line_of_clear escapeless plain
  rw [lines]
  decide +kernel

/-- A fault that goes on is shown with the banner, unless it is an interruption. -/
theorem notice_of_fault {f : Fault} (goesOn : f.kind ≠ .cancelled) (onCancel : List Text) :
    notice onCancel (.fault f) = if f.kind = .interrupted then [] else bannerText := by
  obtain ⟨kind, details⟩ := f
  cases kind with
  | cancelled => contradiction
  | interrupted => rfl
  | transport _ | crash _ => exact banner_shown

section Guarded

variable {session : Except VaultError Session} {onCancel : List Text} {operation : Session → Action α}
  {finish : α → Action Int} {w : World} {s : Session} {left : World}

theorem classifies_closed {e : VaultError} (closed : session = .error e) (kind : e.kind = .noPublisher) :
    Classifies session operation (guarded session onCancel operation finish) w := by
  have code : ((guarded session onCancel operation finish).run w).1 = .ok inputCode := by
    rw [guarded_of_closed closed]
  have never (result : Except Failure α) : ¬ Session.Ends session operation w result :=
    Session.not_ends closed
  generalize guarded session onCancel operation finish = command at code
  rw [closed] at never ⊢
  constructor
  case banner =>
    intro s f opened
    cases opened
  all_goals simp [code, never, kind, inputCode, ErrorFamily.exitCode]

theorem classifies_returned (opened : session = .ok s) {value : α}
    (returned : Returns (operation s) w value left) (completes : ((finish value).run left).1 = .ok 0) :
    Classifies session operation (guarded session onCancel operation finish) w := by
  have code : ((guarded session onCancel operation finish).run w).1 = .ok 0 := by
    rw [guarded_of_returned opened returned, completes]
  have ends (result : Except Failure α) : Session.Ends session operation w result ↔ .ok value = result := by
    rw [Session.ends_iff opened, returned]
  generalize guarded session onCancel operation finish = command at code
  rw [opened] at ends ⊢
  constructor <;> simp [code, ends]

theorem classifies_known (opened : session = .ok s) {e : VaultError}
    (failed : (operation s).run w = (.error (.known e), left)) (specific : e.kind.family ≠ .general) :
    Classifies session operation (guarded session onCancel operation finish) w := by
  have code : ((guarded session onCancel operation finish).run w).1 = .ok e.kind.family.exitCode := by
    rw [guarded_of_failed opened failed, disposal]
  have ends (result : Except Failure α) :
      Session.Ends session operation w result ↔ .error (.known e) = result := by
    rw [Session.ends_iff opened, failed]
  generalize guarded session onCancel operation finish = command at code
  rw [opened] at ends ⊢
  cases family : e.kind.family with
  | general => exact absurd family specific
  | input | cipher | transport =>
    rw [family] at code
    constructor <;> simp [code, ends, family, ErrorFamily.exitCode]

theorem classifies_cancelled (opened : session = .ok s) {f : Fault}
    (failed : (operation s).run w = (.error (.fault f), left)) (cancelled : f.kind = .cancelled) :
    Classifies session operation (guarded session onCancel operation finish) w := by
  have code : ((guarded session onCancel operation finish).run w).1 = .ok 130 := by
    rw [guarded_of_failed opened failed, disposal, if_pos cancelled]
    rfl
  have ends (result : Except Failure α) :
      Session.Ends session operation w result ↔ .error (.fault f) = result := by
    rw [Session.ends_iff opened, failed]
  generalize guarded session onCancel operation finish = command at code
  rw [opened] at ends ⊢
  constructor
  case leaves =>
    intro g
    rw [code, ends]
    constructor
    · intro left
      cases left
    · rintro ⟨kept, same⟩
      cases same
      exact absurd cancelled kept
  all_goals simp [code, ends, cancelled]

theorem classifies_fault (opened : session = .ok s) {f : Fault}
    (failed : (operation s).run w = (.error (.fault f), left)) (goesOn : f.kind ≠ .cancelled) :
    Classifies session operation (guarded session onCancel operation finish) w := by
  have ran : (guarded session onCancel operation finish).run w =
      (.error (.fault f), left.tell (notice onCancel (.fault f))) := by
    rw [guarded_of_failed opened failed, disposal, if_neg goesOn]
  have ends (result : Except Failure α) :
      Session.Ends session operation w result ↔ .error (.fault f) = result := by
    rw [Session.ends_iff opened, failed]
  generalize guarded session onCancel operation finish = command at ran
  have code : (command.run w).1 = .error (.fault f) := by rw [ran]
  rw [opened] at ends ⊢
  constructor
  case leaves =>
    intro g
    rw [code, ends]
    constructor
    · intro left
      cases left
      exact ⟨goesOn, rfl⟩
    · rintro ⟨-, same⟩
      cases same
      rfl
  case banner =>
    intro other g same left
    cases same
    cases code.symm.trans left
    rw [ran, failed, notice_of_fault goesOn]
    rfl
  all_goals simp [code, ends, goesOn]

/-- A guarded command tells apart all ways in which its operation ends, if all errors belong to a family and
nothing fails after the operation. -/
theorem guarded_classifies (onCancel : List Text)
    (unnamed : ∀ e, session = .error e → e.kind = .noPublisher)
    (specific : ∀ s e, ((operation s).run w).1 = .error (.known e) → e.kind.family ≠ .general)
    (completes : ∀ s value left, Returns (operation s) w value left → ((finish value).run left).1 = .ok 0) :
    Classifies session operation (guarded session onCancel operation finish) w := by
  cases opened : session with
  | error e => exact classifies_closed rfl (unnamed e opened)
  | ok s =>
    rcases ran : (operation s).run w with ⟨⟨e | f⟩ | value, left⟩
    · exact classifies_known rfl ran (specific s e (congrArg Prod.fst ran))
    · by_cases cancelled : f.kind = .cancelled
      · exact classifies_cancelled rfl ran cancelled
      · exact classifies_fault rfl ran cancelled
    · exact classifies_returned rfl ran (completes s value left ran)

end Guarded

end Report

namespace Client

/-- Uploading prints nothing. -/
theorem put_keeps_output (s : Session) (payload : Bytes) (epochs : Int) :
    Keeps World.output (put s payload epochs) := by
  intro w
  cases written : Integer.text? epochs with
  | none =>
    rw [put_of_tooLong written]
    rfl
  | some shown =>
    obtain ⟨made, ending, -, ran, -⟩ := put_run written s payload w
    rw [ran]
    rfl

theorem get_failsOnly {kinds : List ErrorKind} (listed : .transport ∈ kinds) (s : Session) (id : Text) :
    FailsOnly (Failure.Among kinds) (get s id) := by
  refine firstSuccess_failsOnly (fun url r cause judged => ?_) (fun detail => ?_) _ _
  · obtain ⟨f, rfl⟩ := verdict_fault judged
    exact Failure.among_fault f
  · exact Failure.among_known listed

end Client

namespace Store

theorem encrypt_keeps_output (plaintext : Bytes) : Keeps World.output (Envelope.encrypt none plaintext) := by
  intro w
  rw [Envelope.encrypt_run]
  rfl

theorem prepare_keeps_output (o : StoreOptions) (s : Session) : Keeps World.output (prepare o s) := by
  have quiet (w : World) (shown : Text) : (w.tell shown).output = w.output := rfl
  unfold prepare
  refine .bind (.report quiet _) fun _ => ?_
  refine .bind (fun w => congrArg World.output (readPlaintext_keeps o.file w)) fun plaintext => ?_
  refine .bind (.report quiet _) fun _ => ?_
  refine .bind (.report quiet _) fun _ => ?_
  refine .bind (.report quiet _) fun _ => ?_
  refine .bind (.report quiet _) fun _ => ?_
  refine .bind (encrypt_keeps_output plaintext) fun sealed => ?_
  refine .bind (.report quiet _) fun _ => ?_
  refine .bind (.report quiet _) fun _ => ?_
  refine .bind (.detail quiet _ _) fun _ => ?_
  refine .bind (traceEpochs_keeps quiet o) fun _ => ?_
  exact .pure _

/-- Storing prints nothing by itself. -/
theorem run_keeps_output (o : StoreOptions) (s : Session) : Keeps World.output (run o s) := by
  unfold run
  refine .bind (prepare_keeps_output o s) fun p => ?_
  refine .bind (Client.put_keeps_output s p.ciphertext o.epochs) fun id => ?_
  exact receipt_keeps (fun _ _ => rfl) p id

theorem command_classifies (environment : Environment) (t : TransportOptions) (o : StoreOptions) (w : World) :
    Report.Classifies (Session.open environment t) (run o) (command environment t o) w := by
  rw [command]
  refine Report.guarded_classifies cancelledLines (fun e => Session.kind_of_closed) ?_ ?_
  · intro s e failed
    exact Failure.Among.specific (run_failsOnly o s w _ failed) (by decide) rfl
  · intro s r left stored
    rw [finish_run (readable_of_run stored)]

/-- A run that returns is answered by its receipt, and nothing else is printed. -/
theorem command_prints (environment : Environment) (t : TransportOptions) (o : StoreOptions) (w : World) :
    (∀ r, Session.Ends (Session.open environment t) (run o) w (.ok r) →
      ((command environment t o).run w).2.output = w.output ++ Json.page r.members) ∧
    (((command environment t o).run w).1 ≠ .ok 0 → ((command environment t o).run w).2.output = w.output) := by
  rw [command]
  constructor
  · rintro r ⟨s, opened, returned⟩
    have stored := Returns.of_returned returned
    rw [Report.guarded_of_returned opened stored, finish_run (readable_of_run stored)]
    exact congrArg (· ++ Json.page r.members) (run_keeps_output o s w)
  · intro other
    cases opened : Session.open environment t with
    | error e =>
      rw [Report.guarded_of_closed rfl]
      rfl
    | ok s =>
      rw [opened] at other
      rcases ran : (run o s).run w with ⟨cause | r, left⟩
      · have kept := run_keeps_output o s w
        rw [ran] at kept
        rw [Report.guarded_of_failed rfl ran]
        exact kept
      · rw [Report.guarded_of_returned rfl ran, finish_run (readable_of_run ran)] at other
        exact absurd rfl other

end Store

namespace Retrieve

def errorKinds : List ErrorKind := [.keyFormat, .transport, .decryption, .checksumMismatch, .outputWrite]

theorem refusal_among (ciphertext : Bytes) : Failure.Among errorKinds (Envelope.refusal ciphertext) := by
  unfold Envelope.refusal
  split
  · exact Failure.among_known (by decide)
  · split
    · exact Failure.among_fault _
    · exact Failure.among_known (by decide)

theorem checkChecksum_failsOnly {kinds : List ErrorKind} (listed : .checksumMismatch ∈ kinds)
    (o : RetrieveOptions) (plaintext : Bytes) :
    FailsOnly (Failure.Among kinds) (checkChecksum o plaintext) := by
  intro w cause failed
  rcases checkChecksum_run o plaintext w with ⟨⟨shown, ran⟩, -⟩ | ⟨ran, -⟩
  · rw [ran] at failed
    cases failed
  · rw [ran] at failed
    cases failed
    exact Failure.among_known listed

theorem download_failsOnly (o : RetrieveOptions) (m : KeyMaterial) (s : Session) :
    FailsOnly (Failure.Among errorKinds) (download o m s) := by
  unfold download
  refine .bind (.report _) fun _ => ?_
  refine .bind (Client.get_failsOnly (by decide) s o.blobId) fun ciphertext => ?_
  refine .bind (.report _) fun _ => ?_
  refine .bind (.report _) fun _ => ?_
  refine .bind (.trace _ _) fun _ => ?_
  refine .bind (.report _) fun _ => ?_
  exact .pure ciphertext

theorem unpack_failsOnly (o : RetrieveOptions) (m : KeyMaterial) (ciphertext : Bytes) :
    FailsOnly (Failure.Among errorKinds) (unpack none o m ciphertext) := by
  unfold unpack
  refine .bind (.ofExcept fun cause failed => ?_) fun plaintext => ?_
  · rw [Envelope.decrypt_refuses failed]
    exact refusal_among ciphertext
  · refine .bind (checkChecksum_failsOnly (by decide) o plaintext) fun _ => ?_
    exact .pure plaintext

theorem content_failsOnly (o : RetrieveOptions) (s : Session) :
    FailsOnly (Failure.Among errorKinds) (content none o s) := by
  unfold content
  refine .bind (.ofExcept fun cause failed => ?_) fun m => ?_
  · obtain ⟨e, rfl, kind⟩ := KeyMaterial.decode_kind failed
    apply Failure.among_known
    rw [kind]
    decide
  · refine .bind (download_failsOnly o m s) fun ciphertext => ?_
    exact unpack_failsOnly o m ciphertext

theorem writeOutput_failsOnly {kinds : List ErrorKind} (listed : .outputWrite ∈ kinds) (output : FilePath)
    (content : Bytes) : FailsOnly (Failure.Among kinds) (writeOutput output content) := by
  refine .bind .get fun w => ?_
  split
  · exact .throw (Failure.among_fault _)
  · dsimp only
    split
    · refine .bind (.throw (Failure.among_fault _)) fun _ => ?_
      split
      · exact .throw (Failure.among_known listed)
      · exact .set _
    · split
      · exact .throw (Failure.among_known listed)
      · exact .set _

theorem save_failsOnly {kinds : List ErrorKind} (listed : .outputWrite ∈ kinds) (o : RetrieveOptions)
    (plaintext : Bytes) : FailsOnly (Failure.Among kinds) (save o plaintext) := by
  unfold save
  refine .bind (.report _) fun _ => ?_
  refine .bind (writeOutput_failsOnly listed o.output plaintext) fun _ => ?_
  exact .pure 0

theorem run_failsOnly (o : RetrieveOptions) (s : Session) :
    FailsOnly (Failure.Among errorKinds) (run o s) := by
  unfold run runUnder
  refine .bind (content_failsOnly o s) fun plaintext => ?_
  exact save_failsOnly (by decide) o plaintext

/-- Retrieving prints nothing, neither by itself nor as a command. -/
theorem run_keeps_output (o : RetrieveOptions) (s : Session) : Keeps World.output (run o s) := by
  unfold run runUnder
  refine .bind (content_keeps (fun _ _ => rfl) (fun _ _ _ => rfl) none o s) fun plaintext => ?_
  exact save_keeps (fun _ _ => rfl) (fun _ _ => rfl) o plaintext

theorem command_keeps_output (environment : Environment) (t : TransportOptions) (o : RetrieveOptions) :
    Keeps World.output (command environment t o) := by
  rw [command_eq]
  exact Report.guarded_keeps (fun _ _ => rfl) (finish_keeps (fun _ _ => rfl) o) (run_keeps_output o)

/-- A run that returns gives the exit code zero. -/
theorem code_of_run {o : RetrieveOptions} {s : Session} {w left : World} {code : Int}
    (retrieved : Returns (run o s) w code left) : code = 0 := by
  rcases run_cases o s w with ⟨_, _, ran, -⟩ | ⟨_, _, ran, -⟩
  · cases retrieved.symm.trans ran
    rfl
  · cases retrieved.symm.trans ran

theorem command_classifies (environment : Environment) (t : TransportOptions) (o : RetrieveOptions)
    (w : World) :
    Report.Classifies (Session.open environment t) (run o) (command environment t o) w := by
  rw [command_eq]
  refine Report.guarded_classifies [Report.interrupted] (fun e => Session.kind_of_closed) ?_ ?_
  · intro s e failed
    exact Failure.Among.specific (run_failsOnly o s w _ failed) (by decide) rfl
  · intro s code left retrieved
    obtain rfl := code_of_run retrieved
    rfl

end Retrieve

/-- The commands of storing and retrieving tell apart all ways in which their operations end. Storing prints
the receipt when the operation returns and nothing when the command ends in another way, and retrieving prints
nothing. -/
theorem commands_classify (environment : Environment) (t : TransportOptions) (w : World) :
    let session := Session.open environment t
    (∀ o : StoreOptions,
      let command := Store.command environment t o
      Report.Classifies session (Store.run o) command w ∧
      (∀ r, Session.Ends session (Store.run o) w (.ok r) → (command.run w).2.output =
        w.output ++ (Json.object r.members).write .indented ++ "\n") ∧
      ((command.run w).1 ≠ .ok 0 → (command.run w).2.output = w.output)) ∧
    ∀ o : RetrieveOptions,
      let command := Retrieve.command environment t o
      Report.Classifies session (Retrieve.run o) command w ∧ (command.run w).2.output = w.output := by
  constructor
  · intro o
    obtain ⟨receipt, nothing⟩ := Store.command_prints environment t o w
    refine ⟨Store.command_classifies environment t o w, fun r ended => ?_, nothing⟩
    rw [List.append_assoc]
    exact receipt r ended
  · intro o
    exact ⟨Retrieve.command_classifies environment t o w, Retrieve.command_keeps_output environment t o w⟩

end BlobVault
