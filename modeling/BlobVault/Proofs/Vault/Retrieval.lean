import BlobVault.Proofs.Files.Tree
import BlobVault.Proofs.Storage.Fallback
import BlobVault.Proofs.Vault.Envelope
import BlobVault.Vault.Retrieve

/-! Retrieving is all or nothing. The output file is written only with content whose ciphertext is what
encrypting gives and whose digest is the expected one; in every other run no file changes. -/
namespace BlobVault

structure FileSystem.Opens (fs : FileSystem) (p : FilePath) (place : Place) : Prop where
  named : p.namingFault?.isNone = true
  whole : p.holdsNul = false
  leads : fs.writablePlace p = .ok place

namespace Retrieve

/-- The checksum option admits content: it is left out, or it is the digest but for blanks around it and
the case of its letters. -/
def Admits (checksum : Text) (content : Bytes) : Prop :=
  checksum ≠ [] → Text.lowerAscii checksum.strip = Hex.write (Digest.sha256 content)

structure Authentic (o : RetrieveOptions) (replies : List Reply) (plaintext : Bytes)
    (m : KeyMaterial) (ciphertext : Bytes) : Prop where
  key : KeyMaterial.decode o.decryptionKey = .ok m
  fetched : Client.Brings replies ciphertext
  opened : Envelope.Produces m plaintext ciphertext
  expected : Admits o.checksum plaintext

/-- Comparing the digests fails on content that is not admitted, and changes no more than what is shown. -/
theorem checkChecksum_run (o : RetrieveOptions) (plaintext : Bytes) (w : World) :
    (∃ shown, (checkChecksum o plaintext).run w = (.ok (), w.tell shown)) ∧ Admits o.checksum plaintext ∨
      (checkChecksum o plaintext).run w =
          (.error (.known (mismatch o.checksum (Canonical.checksum plaintext))), w) ∧
        ¬ Admits o.checksum plaintext := by
  unfold checkChecksum Admits
  rw [← Canonical.checksum]
  by_cases none : o.checksum = []
  · refine .inl ⟨⟨[], ?_⟩, fun some => absurd none some⟩
    rw [none, if_pos List.isEmpty_nil, Action.run_pure, World.tell, List.append_nil]
  · rw [if_neg (by simpa using none)]
    by_cases same : Canonical.checksum plaintext = Text.lowerAscii o.checksum.strip
    · refine .inl ⟨?_, fun _ => same.symm⟩
      simp only [same, ne_eq, not_true_eq_false, if_false, Action.run_detail]
      exact ⟨_, rfl⟩
    · refine .inr ⟨?_, fun admits => same (admits none).symm⟩
      simp only [ne_eq, same, not_false_eq_true, if_true, Action.run_bind, Action.run_fail]

theorem checkChecksum_keeps {view : World → γ} (quiet : ∀ w shown, view (World.tell w shown) = view w)
    (o : RetrieveOptions) (plaintext : Bytes) : Action.Keeps view (checkChecksum o plaintext) := by
  intro w
  rcases checkChecksum_run o plaintext w with ⟨⟨shown, ran⟩, -⟩ | ⟨ran, -⟩
  · rw [ran]
    exact quiet w shown
  · rw [ran]

theorem checkChecksum_returns_iff {o : RetrieveOptions} {plaintext : Bytes} {w : World}
    {done : Unit} : ((checkChecksum o plaintext).run w).1 = .ok done ↔ Admits o.checksum plaintext := by
  rcases checkChecksum_run o plaintext w with ⟨⟨shown, ran⟩, admits⟩ | ⟨ran, refuses⟩
  · simp [ran, admits]
  · simp [ran, refuses]

section Keeps

variable {view : World → γ} (quiet : ∀ w shown, view (World.tell w shown) = view w)
include quiet

theorem unpack_keeps (fault : Option CipherFault) (o : RetrieveOptions) (m : KeyMaterial)
    (ciphertext : Bytes) : Action.Keeps view (unpack fault o m ciphertext) := by
  unfold unpack
  refine .bind (.ofExcept _) fun plaintext => ?_
  refine .bind (checkChecksum_keeps quiet o plaintext) fun _ => ?_
  exact .pure plaintext

variable (silent : ∀ w made, (∀ request ∈ made, request.payload = none) → view (World.sent w made) = view w)
include silent

theorem download_keeps (o : RetrieveOptions) (m : KeyMaterial) (s : Session) :
    Action.Keeps view (download o m s) := by
  unfold download
  refine .bind (.report quiet _) fun _ => ?_
  refine .bind (Client.get_keeps silent s o.blobId) fun ciphertext => ?_
  refine .bind (.report quiet _) fun _ => ?_
  refine .bind (.report quiet _) fun _ => ?_
  refine .bind (.trace quiet _ _) fun _ => ?_
  refine .bind (.report quiet _) fun _ => ?_
  exact .pure ciphertext

/-- Getting at the content changes no more than what is shown and which requests were made, whatever becomes
of it. -/
theorem content_keeps (fault : Option CipherFault) (o : RetrieveOptions) (s : Session) :
    Action.Keeps view (content fault o s) := by
  unfold content
  refine .bind (.ofExcept _) fun m => ?_
  refine .bind (download_keeps quiet silent o m s) fun ciphertext => ?_
  exact unpack_keeps quiet fault o m ciphertext

end Keeps

theorem content_keeps_files (fault : Option CipherFault) (o : RetrieveOptions) (s : Session) :
    Action.Keeps World.files (content fault o s) :=
  content_keeps World.tell_files (fun w made _ => World.sent_files w made) fault o s

theorem unpack_returns_iff {o : RetrieveOptions} {m : KeyMaterial} {ciphertext plaintext : Bytes} {w : World} :
    ((unpack none o m ciphertext).run w).1 = .ok plaintext ↔
      Envelope.Produces m plaintext ciphertext ∧ Admits o.checksum plaintext := by
  simp only [unpack, Action.bind_returns_iff, Action.run_ofExcept, Action.run_pure, Except.ok.injEq,
    exists_const, exists_eq_right_right, Envelope.decrypt_eq_ok_iff, ← Envelope.produces_iff,
    checkChecksum_returns_iff]

theorem download_returns_iff {o : RetrieveOptions} {m : KeyMaterial} {s : Session} {w : World}
    {ciphertext : Bytes} :
    ((download o m s).run w).1 = .ok ciphertext ↔ Client.Brings w.replies ciphertext := by
  simp only [download, Action.bind_returns_iff, Action.run_report, Action.run_trace, Action.run_pure,
    Except.ok.injEq, true_and, exists_const, exists_eq_right, Client.get_returns_iff, World.tell_replies]

/-- Content is got at exactly when it is authentic. -/
theorem content_returns_iff {o : RetrieveOptions} {s : Session} {w : World} {plaintext : Bytes} :
    ((content none o s).run w).1 = .ok plaintext ↔
      ∃ m ciphertext, Authentic o w.replies plaintext m ciphertext := by
  simp only [content, Action.bind_returns_iff, Action.run_ofExcept, download_returns_iff, unpack_returns_iff]
  constructor
  · rintro ⟨m, key, c, fetched, opened, expected⟩
    exact ⟨m, c, key, fetched, opened, expected⟩
  · rintro ⟨m, c, key, fetched, opened, expected⟩
    exact ⟨m, key, c, fetched, opened, expected⟩

theorem writeOutput_of_opens {output : FilePath} {w : World} {place : Place}
    (opens : w.files.Opens output place) (plaintext : Bytes) :
    (writeOutput output plaintext).run w =
      (.ok (), { w with files := w.files.write place plaintext }) := by
  obtain ⟨named, whole, leads⟩ := opens
  simp [writeOutput, Action.run_bind, Option.isNone_iff_eq_none.mp named, whole, leads]

/-- An output that opens no place makes writing fail before anything is changed. -/
theorem writeOutput_of_closed {output : FilePath} {w : World}
    (closed : ∀ place, ¬ w.files.Opens output place) (plaintext : Bytes) :
    ∃ cause, (writeOutput output plaintext).run w = (.error cause, w) := by
  cases named : output.namingFault? with
  | some fault => exact ⟨fault.failure, by simp [writeOutput, Action.run_bind, named]⟩
  | none =>
    cases whole : output.holdsNul with
    | true =>
      exact ⟨.crash .value ["embedded null byte"], by
        simp [writeOutput, Action.run_bind, named, whole]⟩
    | false =>
      cases leads : w.files.writablePlace output with
      | error fault =>
        exact ⟨.known (notWritten output fault), by
          simp [writeOutput, Action.run_bind, named, whole, leads]⟩
      | ok place => exact absurd ⟨Option.isNone_iff_eq_none.mpr named, whole, leads⟩ (closed place)

/-- Writing the output changes no more than files, whatever becomes of it. -/
theorem writeOutput_keeps {view : World → γ} (silent : ∀ w files, view { w with files } = view w)
    (output : FilePath) (content : Bytes) : Action.Keeps view (writeOutput output content) := by
  intro w
  by_cases opens : ∃ place, w.files.Opens output place
  · obtain ⟨place, opens⟩ := opens
    rw [writeOutput_of_opens opens]
    exact silent w _
  · obtain ⟨cause, ran⟩ := writeOutput_of_closed (not_exists.mp opens) content
    rw [ran]

/-- A run that wrote authentic content where the output leads, and nothing elsewhere. -/
structure Wrote (o : RetrieveOptions) (before after : World) (plaintext : Bytes) : Prop where
  authentic : ∃ m ciphertext, Authentic o before.replies plaintext m ciphertext
  holds : after.files.read? o.output = some plaintext
  elsewhere : ∃ place, before.files.Opens o.output place ∧
    after.files.lookup? place = some (.file plaintext) ∧
    ∀ other, other ≠ place → after.files.lookup? other = before.files.lookup? other
  stays : after.files.workingDirectory = before.files.workingDirectory

theorem save_run (o : RetrieveOptions) (plaintext : Bytes) (w : World) :
    (save o plaintext).run w =
      match (writeOutput o.output plaintext).run
        (w.tell (Action.line ("[4/4] Writing decrypted file: " ++ o.output.text))) with
      | (.ok (), left) => (.ok 0, left)
      | (.error cause, left) => (.error cause, left) := by
  rw [save, Action.run_bind, Action.run_report]
  dsimp only
  rw [Action.run_bind]
  rcases (writeOutput o.output plaintext).run _ with ⟨_ | _, left⟩ <;> rfl

theorem save_keeps {view : World → γ} (quiet : ∀ w shown, view (World.tell w shown) = view w)
    (silent : ∀ w files, view { w with files } = view w) (o : RetrieveOptions) (plaintext : Bytes) :
    Action.Keeps view (save o plaintext) := by
  unfold save
  refine .bind (.report quiet _) fun _ => ?_
  refine .bind (writeOutput_keeps silent o.output plaintext) fun _ => ?_
  exact .pure 0

theorem run_of_content {o : RetrieveOptions} {s : Session} {w : World} {plaintext : Bytes}
    (returned : ((content none o s).run w).1 = .ok plaintext) :
    ∃ w', w'.files = w.files ∧
      (run o s).run w =
        match (writeOutput o.output plaintext).run w' with
        | (.ok (), left) => (.ok 0, left)
        | (.error cause, left) => (.error cause, left) := by
  have kept := content_keeps_files none o s w
  have got : (content none o s).run w = (.ok plaintext, ((content none o s).run w).2) := Prod.ext returned rfl
  refine ⟨((content none o s).run w).2.tell
    (Action.line ("[4/4] Writing decrypted file: " ++ o.output.text)), kept, ?_⟩
  rw [run, runUnder, Action.run_bind, got]
  exact save_run o plaintext _

/-- Authentic content and an output that opens a place are all it takes. -/
theorem run_of_opens {o : RetrieveOptions} {s : Session} {w : World} {plaintext : Bytes}
    {m : KeyMaterial} {ciphertext : Bytes} {place : Place}
    (authentic : Authentic o w.replies plaintext m ciphertext) (opens : w.files.Opens o.output place) :
    ∃ left, (run o s).run w = (.ok 0, left) ∧ Wrote o w left plaintext := by
  obtain ⟨w', kept, ran⟩ := run_of_content (content_returns_iff.mpr ⟨m, ciphertext, authentic⟩)
  have inside := (FileSystem.of_writablePlace opens.leads).2.1
  rw [writeOutput_of_opens (kept ▸ opens) plaintext] at ran
  refine ⟨_, ran, ?_⟩
  constructor
  case authentic => exact ⟨m, ciphertext, authentic⟩
  case holds => exact FileSystem.read?_write plaintext (kept ▸ opens.leads)
  case stays =>
    change w'.files.workingDirectory = _
    rw [kept]
  case elsewhere =>
    refine ⟨place, opens, ?_, ?_⟩
    · rw [FileSystem.lookup?_write _ inside, if_pos rfl]
    · intro other different
      rw [FileSystem.lookup?_write _ inside, if_neg different, kept]

/-- Every run either wrote or failed without a change to a file. -/
theorem run_cases (o : RetrieveOptions) (s : Session) (w : World) :
    (∃ plaintext left, (run o s).run w = (.ok 0, left) ∧ Wrote o w left plaintext) ∨
      ∃ cause left, (run o s).run w = (.error cause, left) ∧ left.files = w.files := by
  cases returned : ((content none o s).run w).1 with
  | error cause =>
    refine .inr ⟨cause, ((content none o s).run w).2, ?_, content_keeps_files none o s w⟩
    have failed : (content none o s).run w = (.error cause, ((content none o s).run w).2) :=
      Prod.ext returned rfl
    rw [run, runUnder, Action.run_bind, failed]
  | ok plaintext =>
    by_cases opens : ∃ place, w.files.Opens o.output place
    · obtain ⟨place, opens⟩ := opens
      obtain ⟨m, ciphertext, authentic⟩ := content_returns_iff.mp returned
      exact .inl ⟨plaintext, run_of_opens authentic opens⟩
    · obtain ⟨w', kept, ran⟩ := run_of_content returned
      obtain ⟨cause, failed⟩ := writeOutput_of_closed (kept ▸ not_exists.mp opens) plaintext
      rw [failed] at ran
      exact .inr ⟨cause, w', ran, kept⟩

theorem run_of_badKey {o : RetrieveOptions} {cause : Failure}
    (bad : KeyMaterial.decode o.decryptionKey = .error cause) (s : Session) (w : World) :
    (run o s).run w = (.error cause, w) := by
  simp only [run, runUnder, content, Action.run_bind, bad, Action.run_ofExcept]

/-- A run either writes authentic content where the output leads, and nothing else, or fails and leaves
every file as it was. A text that is no key makes it fail before the first request. -/
theorem run_writes_xor_leaves (o : RetrieveOptions) (s : Session) (w : World) :
    Xor (((run o s).run w).1 = .ok 0 ∧ ∃ plaintext, Wrote o w ((run o s).run w).2 plaintext)
        ((∃ cause, ((run o s).run w).1 = .error cause) ∧ ((run o s).run w).2.files = w.files) ∧
      ∀ cause, KeyMaterial.decode o.decryptionKey = .error cause →
        (run o s).run w = (.error cause, w) := by
  refine ⟨?_, fun cause bad => run_of_badKey bad s w⟩
  rcases run_cases o s w with ⟨plaintext, left, ran, wrote⟩ | ⟨cause, left, ran, kept⟩
  · rw [ran]
    exact .inl ⟨⟨rfl, plaintext, wrote⟩, fun ⟨⟨_, failed⟩, _⟩ => nomatch failed⟩
  · rw [ran]
    exact .inr ⟨⟨⟨cause, rfl⟩, kept⟩, fun ⟨returned, _⟩ => nomatch returned⟩

end Retrieve
end BlobVault
