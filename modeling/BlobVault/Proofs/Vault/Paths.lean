import BlobVault.Proofs.Storage.AnyBody
import BlobVault.Proofs.Vault.Command
import BlobVault.Proofs.Vault.Freshness
import BlobVault.Proofs.Vault.Retrieval

/-! What paths come to. A path that names no file to be stored, or one without content, is an error before
anything is drawn or sent, and a path that cannot be written to is one without a change to a file. Two kinds of
paths leave as faults: a name too long to be looked up, and an output that cannot be handed to the system. -/
namespace BlobVault

/-- A path that can be handed to the system: it has octets, and no U+0000 at which they would end. -/
structure FilePath.Usable (p : FilePath) : Prop where
  named : p.namingFault? = none
  whole : p.holdsNul = false

namespace FileSystem

structure Names (fs : FileSystem) (p : FilePath) (content : Bytes) : Prop where
  usable : p.Usable
  read : fs.read? p = some content

structure Overlong (fs : FileSystem) (p : FilePath) : Prop where
  usable : p.Usable
  long : fs.place p = .error .nameTooLong

end FileSystem

namespace Store

variable {file : FilePath} {fs : FileSystem} {w : World}

inductive ReadsTo (fs : FileSystem) (file : FilePath) : Except Failure Bytes → Prop where
  | missing : (¬ ∃ content, fs.Names file content) → ¬ fs.Overlong file →
      ReadsTo fs file (.error (.known (noFile file)))
  | void : fs.Names file [] → ReadsTo fs file (.error (.known (emptyFile file)))
  | overlong : fs.Overlong file → ReadsTo fs file (.error (systemFault .nameTooLong file))
  | content (content : Bytes) : fs.Names file content → content ≠ [] → ReadsTo fs file (.ok content)

theorem regularFile?_of_names {content : Bytes} (names : w.files.Names file content) :
    (regularFile? file).run w = (.ok (some content), w) :=
  regularFile?_returns_iff.mpr ⟨rfl, by rw [names.usable.named]; rfl, names.usable.whole, names.read⟩

theorem regularFile?_of_overlong (overlong : w.files.Overlong file) :
    (regularFile? file).run w = (.error (systemFault .nameTooLong file), w) := by
  obtain ⟨⟨named, whole⟩, long⟩ := overlong
  simp only [regularFile?_run, named, whole, long, Option.isSome_none, Bool.or_self, Bool.false_eq_true,
    if_false]

theorem regularFile?_of_missing (missing : ¬ ∃ content, w.files.Names file content)
    (short : ¬ w.files.Overlong file) : (regularFile? file).run w = (.ok none, w) := by
  have kept : ((regularFile? file).run w).2 = w := regularFile?_keeps file w
  refine Prod.ext ?_ kept
  rw [regularFile?_run]
  split
  · rfl
  · rename_i usable
    have handed : file.Usable := by
      simp only [Bool.or_eq_true, not_or, Bool.not_eq_true, Option.isSome_eq_false_iff,
        Option.isNone_iff_eq_none] at usable
      exact ⟨usable.1, usable.2⟩
    split
    · rename_i long
      exact absurd ⟨handed, long⟩ short
    · cases read : w.files.read? file with
      | none => rfl
      | some content => exact absurd ⟨content, handed, read⟩ missing

theorem ReadsTo.run {result : Except Failure Bytes} (reads : ReadsTo w.files file result) :
    (readPlaintext file).run w = (result, w) := by
  cases reads with
  | missing missing short =>
    rw [readPlaintext, Action.run_bind, regularFile?_of_missing missing short]
    rfl
  | void names =>
    rw [readPlaintext, Action.run_bind, regularFile?_of_names names]
    rfl
  | overlong overlong => rw [readPlaintext, Action.run_bind, regularFile?_of_overlong overlong]
  | content content names some => exact readPlaintext_returns_iff.mpr ⟨some, regularFile?_of_names names⟩

/-- Every path comes to one of these ends. -/
theorem ReadsTo.total (fs : FileSystem) (file : FilePath) : ∃ result, ReadsTo fs file result := by
  by_cases overlong : fs.Overlong file
  · exact ⟨_, .overlong overlong⟩
  by_cases names : ∃ content, fs.Names file content
  · obtain ⟨content, names⟩ := names
    match content with
    | [] => exact ⟨_, .void names⟩
    | octet :: rest => exact ⟨_, .content _ names (List.cons_ne_nil octet rest)⟩
  · exact ⟨_, .missing names overlong⟩

def readingLine (o : StoreOptions) : Text := Action.line ("[1/5] Reading file: " ++ o.file.text)

/-- A file that cannot be read ends storing before anything is drawn or sent. -/
theorem run_of_unread {o : StoreOptions} {cause : Failure} (unread : ReadsTo w.files o.file (.error cause))
    (s : Session) : (run o s).run w = (.error cause, w.tell (readingLine o)) := by
  have failed : (readPlaintext o.file).run (w.tell (readingLine o)) =
      (.error cause, w.tell (readingLine o)) := ReadsTo.run unread
  simp only [run, prepare, bind_assoc]
  rw [Action.run_bind, Action.run_report]
  dsimp only
  rw [Action.run_bind, ← readingLine, failed]

theorem command_of_unread {o : StoreOptions} {e : VaultError}
    (unread : ReadsTo w.files o.file (.error (.known e))) (input : e.kind.family = .input)
    (environment : Environment) (t : TransportOptions) :
    ∃ shown, (command environment t o).run w = (.ok 3, w.tell shown) := by
  rw [command]
  cases opened : Session.open environment t with
  | error e => exact ⟨_, Report.guarded_of_closed rfl w⟩
  | ok s =>
    rw [Report.guarded_of_failed rfl (run_of_unread unread s), Report.disposal, input, World.tell_tell]
    exact ⟨_, rfl⟩

/-- A name that is too long leaves the command as well. -/
theorem command_of_overlong {o : StoreOptions} (overlong : w.files.Overlong o.file)
    {environment : Environment} {t : TransportOptions} {s : Session}
    (opened : Session.open environment t = .ok s) :
    ∃ shown, (command environment t o).run w =
      (.error (systemFault .nameTooLong o.file), w.tell shown) := by
  rw [command, Report.guarded_of_failed opened (run_of_unread (.overlong overlong) s), World.tell_tell]
  exact ⟨_, rfl⟩

/-- How storing ends for the path that it is given. A path that names no file and a file without content are
refused, with nothing drawn or sent; a path that is too long to be looked up leaves as a fault, and no other
does. -/
structure PathEnds (environment : Environment) (t : TransportOptions) (o : StoreOptions) (w : World) :
    Prop where
  missing : (¬ ∃ content, w.files.Names o.file content) → ¬ w.files.Overlong o.file →
    (∀ s, (run o s).run w = (.error (.known (noFile o.file)), w.tell (readingLine o))) ∧
      ∃ shown, (command environment t o).run w = (.ok 3, w.tell shown)
  void : w.files.Names o.file [] →
    (∀ s, (run o s).run w = (.error (.known (emptyFile o.file)), w.tell (readingLine o))) ∧
      ∃ shown, (command environment t o).run w = (.ok 3, w.tell shown)
  read : ∀ content, w.files.Names o.file content → content ≠ [] →
    (readPlaintext o.file).run w = (.ok content, w)
  overlong : w.files.Overlong o.file →
    (∀ s, (run o s).run w = (.error (systemFault .nameTooLong o.file), w.tell (readingLine o))) ∧
      ∀ s, Session.open environment t = .ok s →
        ∃ shown, (command environment t o).run w =
          (.error (systemFault .nameTooLong o.file), w.tell shown)
  leaves : (∃ f, ((readPlaintext o.file).run w).1 = .error (.fault f)) ↔ w.files.Overlong o.file

theorem pathEnds (environment : Environment) (t : TransportOptions) (o : StoreOptions) (w : World) :
    PathEnds environment t o w := by
  constructor
  case missing =>
    intro missing short
    have unread := ReadsTo.missing missing short
    exact ⟨run_of_unread unread, command_of_unread unread rfl environment t⟩
  case void =>
    intro names
    have unread := ReadsTo.void names
    exact ⟨run_of_unread unread, command_of_unread unread rfl environment t⟩
  case read =>
    intro content names some
    exact ReadsTo.run (.content content names some)
  case overlong =>
    intro overlong
    exact ⟨run_of_unread (.overlong overlong), fun s => command_of_overlong overlong⟩
  case leaves =>
    constructor
    · rintro ⟨f, failed⟩
      obtain ⟨result, reads⟩ := ReadsTo.total w.files o.file
      rw [reads.run] at failed
      cases failed
      cases reads with
      | overlong overlong => exact overlong
    · intro overlong
      exact ⟨_, congrArg Prod.fst (ReadsTo.run (.overlong overlong))⟩

end Store

namespace Retrieve

variable {o : RetrieveOptions} {s : Session} {w : World} {plaintext : Bytes} {cause : Failure}

inductive Refuses (fs : FileSystem) (output : FilePath) : Failure → Prop where
  | unnameable (fault : EncodingFault) : output.namingFault? = some fault → Refuses fs output fault.failure
  | cut : output.namingFault? = none → output.holdsNul = true →
      Refuses fs output (.crash .value ["embedded null byte"])
  | closed (fault : PathFault) : output.Usable → fs.writablePlace output = .error fault →
      Refuses fs output (.known (notWritten output fault))

theorem Refuses.run {output : FilePath} (refuses : Refuses w.files output cause) (content : Bytes) :
    (writeOutput output content).run w = (.error cause, w) := by
  cases refuses with
  | unnameable fault unnameable => simp [writeOutput, Action.run_bind, unnameable]
  | cut named cut => simp [writeOutput, Action.run_bind, named, cut]
  | closed fault usable closed => simp [writeOutput, Action.run_bind, usable.named, usable.whole, closed]

theorem run_of_refused (authentic : ∃ m ciphertext, Authentic o w.replies plaintext m ciphertext)
    (refuses : Refuses w.files o.output cause) (s : Session) :
    ∃ left, (run o s).run w = (.error cause, left) ∧ left.files = w.files := by
  obtain ⟨w', files, ran⟩ := run_of_content (s := s) (content_returns_iff.mpr authentic)
  rw [Refuses.run (files ▸ refuses)] at ran
  exact ⟨w', ran, files⟩

/-- A failed run ends the command as its cause says. -/
theorem command_of_failed {environment : Environment} {t : TransportOptions} {left : World}
    (opened : Session.open environment t = .ok s) (failed : (run o s).run w = (.error cause, left)) :
    ∃ after, (command environment t o).run w = (Report.disposal cause, after) ∧
      after.files = left.files := by
  rw [command_eq, Report.guarded_of_failed opened failed]
  exact ⟨_, rfl, World.tell_files _ _⟩

theorem command_of_wrote {environment : Environment} {t : TransportOptions} {left : World}
    (opened : Session.open environment t = .ok s) (returned : (run o s).run w = (.ok 0, left))
    (wrote : Wrote o w left plaintext) :
    ∃ after, (command environment t o).run w = (.ok 0, after) ∧ Wrote o w after plaintext := by
  rw [command_eq, Report.guarded_of_returned opened returned]
  simp only [finish, Action.run_bind, Action.run_report, Action.run_pure]
  exact ⟨_, rfl, wrote.authentic, wrote.holds, wrote.elsewhere, wrote.stays⟩

/-- How retrieving authentic content ends for the output that it is given. A path that can be handed to the
system is written to, or refused without a change to a file, and any other leaves as a fault. -/
structure PathEnds (environment : Environment) (t : TransportOptions) (o : RetrieveOptions) (s : Session)
    (w : World) (plaintext : Bytes) : Prop where
  written : ∀ place, w.files.Opens o.output place →
    ∃ left, (run o s).run w = (.ok 0, left) ∧ Wrote o w left plaintext
  refused : ∀ fault, o.output.Usable → w.files.writablePlace o.output = .error fault →
    ∃ left, (run o s).run w = (.error (.known (notWritten o.output fault)), left) ∧ left.files = w.files
  exits : o.output.Usable → ∃ code left, (command environment t o).run w = (.ok code, left) ∧
    (code = 0 ∧ Wrote o w left plaintext ∨ code = 3 ∧ left.files = w.files)
  leaves : ¬ o.output.Usable → ∃ f left, (run o s).run w = (.error (.fault f), left) ∧ left.files = w.files ∧
    (Session.open environment t = .ok s →
      ∃ after, (command environment t o).run w = (.error (.fault f), after) ∧ after.files = w.files)

theorem opens_iff {fs : FileSystem} {output : FilePath} {place : Place} :
    fs.Opens output place ↔ output.Usable ∧ fs.writablePlace output = .ok place := by
  constructor
  · rintro ⟨named, whole, leads⟩
    exact ⟨⟨Option.isNone_iff_eq_none.mp named, whole⟩, leads⟩
  · rintro ⟨⟨named, whole⟩, leads⟩
    exact ⟨Option.isNone_iff_eq_none.mpr named, whole, leads⟩

theorem pathEnds (authentic : ∃ m ciphertext, Authentic o w.replies plaintext m ciphertext)
    (environment : Environment) (t : TransportOptions) (s : Session) :
    PathEnds environment t o s w plaintext := by
  obtain ⟨m, ciphertext, content⟩ := authentic
  constructor
  case written => exact fun place opens => run_of_opens content opens
  case refused =>
    exact fun fault usable closed => run_of_refused ⟨m, ciphertext, content⟩ (.closed fault usable closed) s
  case exits =>
    intro usable
    cases opened : Session.open environment t with
    | error e =>
      rw [command_eq, Report.guarded_of_closed opened]
      exact ⟨_, _, rfl, .inr ⟨rfl, rfl⟩⟩
    | ok s =>
      cases leads : w.files.writablePlace o.output with
      | ok place =>
        obtain ⟨left, ran, wrote⟩ := run_of_opens (s := s) content (opens_iff.mpr ⟨usable, leads⟩)
        obtain ⟨after, ended, kept⟩ := command_of_wrote opened ran wrote
        exact ⟨0, after, ended, .inl ⟨rfl, kept⟩⟩
      | error fault =>
        obtain ⟨left, ran, files⟩ := run_of_refused ⟨m, ciphertext, content⟩ (.closed fault usable leads) s
        obtain ⟨after, ended, kept⟩ := command_of_failed opened ran
        exact ⟨3, after, ended, .inr ⟨rfl, kept.trans files⟩⟩
  case leaves =>
    intro unusable
    have refuses : ∃ c details, Refuses w.files o.output (.crash c details) := by
      cases named : o.output.namingFault? with
      | some fault => exact ⟨_, _, .unnameable fault named⟩
      | none =>
        cases cut : o.output.holdsNul with
        | true => exact ⟨_, _, .cut named cut⟩
        | false => exact absurd ⟨named, cut⟩ unusable
    obtain ⟨c, details, refuses⟩ := refuses
    obtain ⟨left, ran, files⟩ := run_of_refused ⟨m, ciphertext, content⟩ refuses s
    refine ⟨⟨.crash c, details⟩, left, ran, files, fun opened => ?_⟩
    obtain ⟨after, ended, kept⟩ := command_of_failed opened ran
    exact ⟨after, ended, kept.trans files⟩

/-- What was encrypted and is served whole is authentic under its own key. -/
theorem authentic_of_served (m : KeyMaterial) {plaintext sealed : Bytes}
    (produced : Envelope.Produces m plaintext sealed) (rest : List Reply) (blobId : Text) (output : FilePath)
    (v : Verbosity) :
    Authentic ⟨blobId, m.text, output, [], v⟩ (⟨200, sealed, [], none⟩ :: rest) plaintext m sealed := by
  constructor
  case key => exact KeyMaterial.decode_eq_ok_iff.mpr (Hex.Respells.self _)
  case fetched => exact .inl (Reply.delivers_served sealed)
  case opened => exact produced
  case expected => exact fun some => absurd rfl some

end Retrieve

/-- What paths come to in storing and retrieving. Whatever a path holds and wherever it leads, both operations
report what is wrong with it and leave the files as they are, except for a path to be stored that is too long
and for an output that cannot be handed to the system. -/
theorem paths_end (environment : Environment) (t : TransportOptions) :
    (∀ o w, Store.PathEnds environment t o w) ∧
      ∀ o s w plaintext, (∃ m ciphertext, Retrieve.Authentic o (World.replies w) plaintext m ciphertext) →
        Retrieve.PathEnds environment t o s w plaintext :=
  ⟨Store.pathEnds environment t, fun _ s _ _ authentic => Retrieve.pathEnds authentic environment t s⟩

/-- A directory that is to be stored or written to, and a file without content. -/
theorem paths_end_directory :
    let m : KeyMaterial := ⟨List.replicate 32 0, List.replicate 12 0, rfl, rfl⟩
    let sealed := Cipher.Gcm.encrypt (Cipher.Aes256.encrypt m.key) m.nonce [7]
    let s : Session := ⟨"http://p", 30, false, 0⟩
    let quiet : Verbosity := ⟨false, false⟩
    let w : World := ⟨⟨[([[0x64]], .directory), ([[0x65]], .file [])], []⟩, [], [],
      [⟨200, sealed, [], none⟩], [], [], []⟩
    (Store.run ⟨.ofText "d", 1, quiet⟩ s).run w =
        (.error (.known (Store.noFile (.ofText "d"))), w.tell "[1/5] Reading file: d\n") ∧
      (Store.run ⟨.ofText "./e", 1, quiet⟩ s).run w =
        (.error (.known (Store.emptyFile (.ofText "./e"))), w.tell "[1/5] Reading file: e\n") ∧
      ∃ left, (Retrieve.run ⟨"x", m.text, .ofText "d/", "", quiet⟩ s).run w =
        (.error (.known (Retrieve.notWritten (.ofText "d/") .isDirectory)), left) ∧ left.files = w.files := by
  intro m sealed s quiet w
  obtain ⟨stores, retrieves⟩ := paths_end ⟨[], .standard, 0⟩ ⟨"http://p", 0, false⟩
  have produced : Envelope.Produces m [7] sealed :=
    Envelope.produces_iff.mpr (Envelope.encryptWith_eq_ok_iff.mpr ⟨by decide, rfl⟩)
  have usable (t : Text) (named : (FilePath.ofText t).namingFault? = none)
      (whole : (FilePath.ofText t).holdsNul = false) : (FilePath.ofText t).Usable := ⟨named, whole⟩
  refine ⟨?_, ?_, ?_⟩
  · refine ((stores ⟨.ofText "d", 1, quiet⟩ w).missing ?_ ?_).1 s
    · rintro ⟨content, -, read⟩
      cases read
    · rintro ⟨-, long⟩
      cases long
  · exact ((stores ⟨.ofText "./e", 1, quiet⟩ w).void ⟨usable _ rfl rfl, rfl⟩).1 s
  · have authentic := Retrieve.authentic_of_served m produced [] "x" (.ofText "d/") quiet
    exact (retrieves _ s w [7] ⟨m, sealed, authentic⟩).refused .isDirectory (usable _ rfl rfl) rfl

/-- A name of 256 letters that is to be stored, and an output with U+0000 in it, leave as faults. -/
theorem paths_leave :
    let m : KeyMaterial := ⟨List.replicate 32 0, List.replicate 12 0, rfl, rfl⟩
    let sealed := Cipher.Gcm.encrypt (Cipher.Aes256.encrypt m.key) m.nonce [7]
    let s : Session := ⟨"http://p", 30, false, 0⟩
    let quiet : Verbosity := ⟨false, false⟩
    let long : FilePath := .ofText (List.replicate 256 'x')
    let w : World := ⟨⟨[], []⟩, [], [], [⟨200, sealed, [], none⟩], [], [], []⟩
    (¬ ∃ content, w.files.read? long = some content) ∧
      ((Store.run ⟨long, 1, quiet⟩ s).run w).1 = .error (Store.systemFault .nameTooLong long) ∧
      ((Retrieve.run ⟨"x", m.text, .ofText [0x61, 0], "", quiet⟩ s).run w).1 =
        .error (.crash .value ["embedded null byte"]) := by
  intro m sealed s quiet long w
  have produced : Envelope.Produces m [7] sealed :=
    Envelope.produces_iff.mpr (Envelope.encryptWith_eq_ok_iff.mpr ⟨by decide, rfl⟩)
  have place : w.files.place long = .error .nameTooLong := by decide +kernel
  have usable : long.Usable := ⟨by decide +kernel, by decide +kernel⟩
  refine ⟨?_, ?_, ?_⟩
  · rintro ⟨content, read⟩
    rw [FileSystem.read?, place] at read
    cases read
  · exact congrArg Prod.fst (Store.run_of_unread (o := ⟨long, 1, quiet⟩) (.overlong ⟨usable, place⟩) s)
  · have authentic := Retrieve.authentic_of_served m produced [] "x" (.ofText [0x61, 0]) quiet
    have cut : Retrieve.Refuses w.files (.ofText [0x61, 0]) (.crash .value ["embedded null byte"]) :=
      .cut rfl rfl
    obtain ⟨left, ran, -⟩ := Retrieve.run_of_refused (w := w)
      (o := ⟨"x", m.text, .ofText [0x61, 0], [], quiet⟩) ⟨m, sealed, authentic⟩ cut s
    exact congrArg Prod.fst ran

end BlobVault
