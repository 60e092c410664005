import BlobVault.Proofs.Audit.Canonical
import BlobVault.Proofs.Result
import BlobVault.Proofs.Vault.Report
import BlobVault.Vault.Evidence

/-! Whoever sees the canonical record can derive its hash again. It is shown as it is, its members are the
values of the record, and these values make the same record. -/
namespace BlobVault

open BlobVault.Action (Returns)

namespace AuditRecord

/-- The values of a record as an input, its tags in one text with commas between them. -/
def input (r : AuditRecord) : AuditInput :=
  ⟨r.action, r.prompt, .integer r.score.toNat, Text.join "," r.tags, r.decision, r.reason, r.timestamp⟩

/-- The values of a record make the record again. -/
theorem build_input {i : AuditInput} {r : AuditRecord} (accepted : build i = .ok r) :
    build r.input = .ok r := by
  have made := madeFrom_of_build accepted
  -- The tags of a record are labels in order: joined, they come apart into themselves.
  have parsed : Tags.parse (Text.join "," r.tags) = .ok r.tags := by
    rw [made.tags]
    exact Tags.parse_join made.tagsPlain
  have tags : (Text.join "," r.tags).hasSurrogate = false :=
    Text.hasSurrogate_join rfl made.plain.tags
  have score : Score.validate (.integer r.score.toNat) = .ok r.score := validate_eq_ok_iff.mpr rfl
  have checked {field value : Text} (plain : value.hasSurrogate = false) : checkText field value = .ok () :=
    checkText_eq_ok_iff.mpr plain
  simp only [build, input, checked made.plain.action, checked made.plain.prompt, checked tags,
    checked made.plain.decision, checked made.plain.reason, checked made.plain.timestamp, score, parsed,
    bind, Except.bind]

end AuditRecord

namespace Evidence

def canonical (r : AuditRecord) : Text := (Json.object r.members).write .compact

theorem canonicalAndHash_of_build {i : AuditInput} {r : AuditRecord}
    (accepted : AuditRecord.build i = .ok r) :
    canonicalAndHash i = .ok (canonical r, "0x" ++ Canonical.checksum (canonical r).utf8) := by
  have plain := (AuditRecord.madeFrom_of_build accepted).plain
  have text := Canonical.text_members plain
  have octets := Canonical.bytes_members plain
  simp only [canonicalAndHash, accepted, text, Canonical.hash, octets, bind, Except.bind]
  rfl

theorem line_canonical {r : AuditRecord} (plain : r.Plain) :
    Action.line ("Canonical record: " ++ canonical r) = "Canonical record: " ++ canonical r ++ "\n" := by
  have shown := (Json.shown_writeAt Json.compact_separates (AuditRecord.readable_members r) 0).clear
  have heading : ControlSequence.escape ∉ ("Canonical record: " : Text) :=
    fun member => Bool.false_ne_true (List.elem_eq_true_of_mem member)
  have clear : ControlSequence.escape ∉ ("Canonical record: " : Text) ++ canonical r :=
    fun member => (List.mem_append.mp member).elim heading shown
  have whole : (("Canonical record: " : Text) ++ canonical r).hasSurrogate = false := by
    rw [Text.hasSurrogate_append, canonical, Canonical.plain_write plain]
    rfl
  exact Action.line_of_clear clear whole

/-- The hash of an accepted input is printed, and the canonical record is shown for debugging. -/
theorem hash_run {i : AuditInput} {r : AuditRecord} (accepted : AuditRecord.build i = .ok r) (v : Verbosity)
    (w : World) :
    ∃ shown, (hash v i).run w =
        (.ok 0, (w.tell (if v.debug then "Canonical record: " ++ canonical r ++ "\n" else [])).printed shown) ∧
      Json.ReadsAs 1 shown (.object
        [("record_hash", .text ("0x" ++ Canonical.checksum (canonical r).utf8))]) := by
  have plain := (AuditRecord.madeFrom_of_build accepted).plain
  have digits : Text.Unpaired ("0x" ++ Canonical.checksum (canonical r).utf8) := by
    apply Text.unpaired_of_plain
    rw [Text.hasSurrogate_append, Canonical.checksum, Hex.hasSurrogate_write]
    rfl
  have readable : Json.Readable true 1 (.object
      [("record_hash", .text ("0x" ++ Canonical.checksum (canonical r).utf8))]) :=
    .single (fun _ => Text.unpaired_of_plain rfl) (.scalar fun _ => digits)
  obtain ⟨shown, printed, read⟩ := Action.printJson_run readable
    (w.tell (if v.debug then Action.line ("Canonical record: " ++ canonical r) else []))
  refine ⟨shown, ?_, read⟩
  rw [← line_canonical plain]
  simp only [hash, orReport, canonicalAndHash_of_build accepted, Action.run_bind, Action.run_trace, printed,
    Action.run_pure]

/-- An input that is not accepted ends with another exit code than zero, or in a fault. -/
theorem build_of_hash {v : Verbosity} {i : AuditInput} {w left : World} (ended : Returns (hash v i) w 0 left) :
    ∃ r, AuditRecord.build i = .ok r := by
  unfold hash orReport at ended
  split at ended
  · rename_i found
    obtain ⟨r, accepted, -⟩ := bind_eq_ok_iff.mp found
    exact ⟨r, accepted⟩
  · exact absurd ended Report.error_ne_zero
  · cases ended

/-- An auditor can derive the hash again from the record that is shown. The canonical text is all that the
diagnostic stream holds, its digest is the hash on the output, and it reads as the seven values of the
record, which make the same record, text and hash. -/
theorem hash_rederives {v : Verbosity} {i : AuditInput} {w left : World}
    (ended : Returns (hash v i) w 0 left) :
    ∃ (r : AuditRecord) (shown printed : Text),
      let digest : Text := "0x" ++ Hex.write (Digest.sha256 shown.utf8)
      AuditRecord.build i = .ok r ∧
      left.diagnostics = w.diagnostics ++
        (if v.debug then "Canonical record: " ++ shown ++ "\n" else []) ∧
      left.output = w.output ++ printed ∧
      Json.ReadsAs 1 printed (.object [("record_hash", .text digest)]) ∧ i.hash = .ok digest ∧
      Json.ReadsAs 2 shown (.object [("action", .text r.action), ("prompt", .text r.prompt),
        ("score", .nat r.score.toNat), ("tags", .array (r.tags.map .text)), ("decision", .text r.decision),
        ("reason", .text r.reason), ("timestamp", .text r.timestamp)]) ∧
      AuditRecord.build r.input = .ok r ∧ Canonical.text r.members = .ok shown ∧
      r.input.hash = .ok digest := by
  obtain ⟨r, accepted⟩ := build_of_hash ended
  obtain ⟨printed, ran, read⟩ := hash_run accepted v w
  obtain ⟨-, rfl⟩ := (Returns.of_run ran).mp ended
  have again := AuditRecord.build_input accepted
  have plain := (AuditRecord.madeFrom_of_build accepted).plain
  have octets := Canonical.bytes_members plain
  exact ⟨r, canonical r, printed, accepted, rfl, rfl, read, AuditInput.hash_of_build accepted octets,
    Json.readsAs_write Json.compact_separates (AuditRecord.readable_members r), again,
    Canonical.text_members plain, AuditInput.hash_of_build again octets⟩

/-- A record whose action is an escape sequence and whose prompt has a line break. -/
theorem hash_rederives_controls :
    let action : Text := [0x1B, 0x5B, 0x30, 0x6D]
    let prompt : Text := [0x61, 0x0A, 0x62]
    let w : World := ⟨⟨[], []⟩, [], [], [], [], [], []⟩
    ∃ left shown,
      Returns (hash ⟨true, false⟩ ⟨action, prompt, .integer 7, "b, a", "allow", "", ""⟩) w 0 left ∧
      left.diagnostics = "Canonical record: " ++ shown ++ "\n" ∧
      Json.ReadsAs 2 shown (.object [("action", .text action), ("prompt", .text prompt), ("score", .nat 7),
        ("tags", .array [.text "a", .text "b"]), ("decision", .text "allow"), ("reason", .text ""),
        ("timestamp", .text "")]) := by
  intro action prompt w
  have accepted : AuditRecord.build ⟨action, prompt, .integer 7, "b, a", "allow", "", ""⟩ =
      .ok ⟨action, prompt, 7, ["a", "b"], "allow", "", ""⟩ := rfl
  obtain ⟨printed, ran, -⟩ := hash_run accepted ⟨true, false⟩ w
  obtain ⟨r, shown, _, made, diagnostics, -, -, -, read, -⟩ := hash_rederives ran
  obtain rfl := Except.ok.inj (accepted.symm.trans made)
  exact ⟨_, shown, ran, diagnostics, read⟩

end Evidence
end BlobVault
