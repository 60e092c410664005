import BlobVault.Proofs.Audit.Rederivation
import BlobVault.Proofs.Json.Display

/-! How hashing an audit record ends. The first text without an encoding is named, and then a score out of
range is shown; an integer that is too long to be shown leaves as a fault. An accepted record is always
hashed. -/
namespace BlobVault

open BlobVault.Action (Returns)

namespace Scalar

def IsScore (x : Scalar) : Prop := ∃ n, x = .integer n ∧ 0 ≤ n ∧ n ≤ 255

def IsOverlong (x : Scalar) : Prop := ∃ n, x = .integer n ∧ Integer.bound ≤ n.natAbs

theorem isWritable_iff {x : Scalar} : x.isWritable = true ↔ ¬ x.IsOverlong := by
  cases x with
  | integer n =>
    rw [isWritable, Integer.text?, IsOverlong]
    split <;> simp [*]
  | null | truth _ | real _ | text _ => simp [isWritable, IsOverlong]

theorem not_isScore_of_isOverlong {x : Scalar} (overlong : x.IsOverlong) : ¬ x.IsScore := by
  rintro ⟨n, rfl, least, most⟩
  obtain ⟨m, same, long⟩ := overlong
  cases same
  have limit : 1000 < Integer.bound := Integer.pow_lt_bound (k := 3) (by decide)
  omega

end Scalar

namespace Score

theorem validate_returns_iff {x : Scalar} : (∃ score, validate x = .ok score) ↔ x.IsScore := by
  constructor
  · rintro ⟨score, taken⟩
    have bound := score.toNat_lt
    exact ⟨score.toNat, AuditRecord.validate_eq_ok_iff.mp taken, by omega, by omega⟩
  · rintro ⟨n, rfl, least, most⟩
    exact ⟨.ofNat n.toNat, if_pos ⟨least, most⟩⟩

/-- A value that is no score is shown in the error, unless it is too long for that. -/
theorem validate_of_not_isScore {x : Scalar} (unfit : ¬ x.IsScore) :
    validate x = .error (if x.isWritable then .known (outOfRange x.notate) else .tooManyDigits) := by
  cases x with
  | integer n =>
    have outside : ¬ (0 ≤ n ∧ n ≤ 255) := fun inside => unfit ⟨n, rfl, inside⟩
    rw [validate, if_neg outside]
    split <;> rfl
  | null | truth _ | real _ | text _ => rfl

end Score

namespace AuditInput

/-- The texts of an input with the names of their fields, in the order in which they are checked. -/
def texts (i : AuditInput) : List (Text × Text) :=
  [("action", i.action), ("prompt", i.prompt), ("tags", i.tags), ("decision", i.decision),
    ("reason", i.reason), ("timestamp", i.timestamp)]

/-- The field of the first text that has no encoding. -/
def unencodable? (i : AuditInput) : Option Text :=
  (i.texts.find? fun t => t.2.hasSurrogate).map Prod.fst

def Encodable (i : AuditInput) : Prop := ∀ t ∈ i.texts, t.2.hasSurrogate = false

instance encodableDecidable (i : AuditInput) : Decidable i.Encodable :=
  inferInstanceAs (Decidable (∀ t ∈ i.texts, t.2.hasSurrogate = false))

theorem unencodable?_cases {i : AuditInput} {field : Text} (first : i.unencodable? = some field) :
    field = "action" ∨ field = "prompt" ∨ field = "tags" ∨ field = "decision" ∨ field = "reason" ∨
      field = "timestamp" := by
  obtain ⟨t, found, rfl⟩ := Option.map_eq_some_iff.mp first
  simpa [texts] using (List.mem_map_of_mem (List.mem_of_find?_eq_some found) : t.1 ∈ i.texts.map Prod.fst)

theorem unencodable?_eq_none_iff {i : AuditInput} : i.unencodable? = none ↔ i.Encodable := by
  simp [unencodable?, Encodable, List.find?_eq_none]

theorem encodable_or_unencodable (i : AuditInput) : i.Encodable ∨ ∃ field, i.unencodable? = some field := by
  rw [← unencodable?_eq_none_iff]
  exact Option.eq_none_or_eq_some _

end AuditInput

namespace AuditRecord

/-- Checks of texts one after the other fail at the first that has no encoding. -/
theorem checks_eq (texts : List (Text × Text)) :
    (forM texts fun t => checkText t.1 t.2) =
      match (texts.find? fun t => t.2.hasSurrogate).map Prod.fst with
      | some field => .error (.known (notText field))
      | none => .ok ⟨⟩ := by
  induction texts with
  | nil => rfl
  | cons t rest ih =>
    rw [List.forM_cons, ih, List.find?_cons, checkText]
    cases t.2.hasSurrogate <;> rfl

/-- A record is made behind the checks of all its texts. -/
theorem build_eq (i : AuditInput) :
    build i = (do
      forM i.texts fun t => checkText t.1 t.2
      let score ← Score.validate i.score
      let tags ← Tags.parse i.tags
      .ok ⟨i.action, i.prompt, score, tags, i.decision, i.reason, i.timestamp⟩) := by
  simp only [AuditInput.texts, List.forM_cons, List.forM_nil, bind_assoc, pure_bind]
  rfl

theorem build_of_unencodable {i : AuditInput} {field : Text} (first : i.unencodable? = some field) :
    build i = .error (.known (notText field)) := by
  rw [AuditInput.unencodable?] at first
  rw [build_eq, checks_eq, first]
  rfl

theorem build_of_encodable {i : AuditInput} (plain : i.Encodable) :
    build i = (Score.validate i.score).map fun score => ⟨i.action, i.prompt, score,
      Tags.normalize (Tags.labels i.tags), i.decision, i.reason, i.timestamp⟩ := by
  have none := AuditInput.unencodable?_eq_none_iff.mpr plain
  have tags : i.tags.hasSurrogate = false := plain ("tags", i.tags) (by simp [AuditInput.texts])
  rw [AuditInput.unencodable?] at none
  rw [build_eq, checks_eq, none, Tags.parse_of_plain tags]
  cases Score.validate i.score <;> rfl

end AuditRecord

theorem Canonical.hash_of_bytes {record : Members} {b : Bytes} (octets : bytes record = .ok b) :
    hash record = .ok ("0x" ++ checksum b) := by
  rw [hash, octets]
  rfl

namespace Evidence

variable {i : AuditInput}

/-- An error in an input is reported on one line if its message can be shown as it is. -/
theorem hash_of_invalid {e : VaultError} (refused : AuditRecord.build i = .error (.known e))
    (invalid : e.kind.family = .input) (clear : ControlSequence.escape ∉ e.message)
    (plain : e.message.hasSurrogate = false) (v : Verbosity) (w : World) :
    (hash v i).run w = (.ok 3, w.tell ("Invalid input: " ++ e.message ++ "\n")) := by
  have heading : ControlSequence.escape ∉ ("Invalid input: " : Text) :=
    fun member => Bool.false_ne_true (List.elem_eq_true_of_mem member)
  have whole : (("Invalid input: " : Text) ++ e.message).hasSurrogate = false := by
    rw [Text.hasSurrogate_append, plain]
    rfl
  have line : Action.line ("Invalid input: " ++ e.message) = "Invalid input: " ++ e.message ++ "\n" :=
    Action.line_of_clear (fun member => (List.mem_append.mp member).elim heading clear) whole
  have reported : hash v i = Report.error e := by
    rw [hash, canonicalAndHash, refused]
    rfl
  rw [reported, Report.run_error, invalid, ← line]
  rfl

theorem hash_of_fault {f : Fault} (refused : AuditRecord.build i = .error (.fault f)) (v : Verbosity)
    (w : World) : (hash v i).run w = (.error (.fault f), w) := by
  have thrown : hash v i = throw (.fault f) := by
    rw [hash, canonicalAndHash, refused]
    rfl
  rw [thrown, Action.run_throw]

/-- How the command on an input ends. It prints the hash exactly for an input whose texts all have an encoding
and whose score is an integer of eight bits. Else the first text without an encoding is named, and behind the
texts the score is shown. All that leaves as a fault is a score too long to be shown. Behind a record that was
made nothing fails. -/
structure HashEnds (v : Verbosity) (i : AuditInput) (w : World) : Prop where
  completes : (∃ left, Returns (hash v i) w 0 left) ↔ i.Encodable ∧ i.score.IsScore
  prints : ∀ left, Returns (hash v i) w 0 left → ∃ digest shown, i.hash = .ok digest ∧
    left.output = w.output ++ shown ∧ Json.ReadsAs 1 shown (.object [("record_hash", .text digest)])
  namesField : ∀ field, i.unencodable? = some field →
    let message := "Field " ++ field ++ " is not valid UTF-8 text"
    AuditRecord.build i = .error (.known ⟨.textEncoding, message⟩) ∧
      (hash v i).run w = (.ok 3, w.tell ("Invalid input: " ++ message ++ "\n"))
  showsScore : i.Encodable → ¬ i.score.IsScore → ¬ i.score.IsOverlong →
    let message := "Score must be an integer between 0 and 255, got " ++ i.score.notate ++ "."
    AuditRecord.build i = .error (.known ⟨.scoreRange, message⟩) ∧
      (hash v i).run w = (.ok 3, w.tell ("Invalid input: " ++ message ++ "\n"))
  leaves : ∀ cause left, (hash v i).run w = (.error cause, left) ↔
    i.Encodable ∧ i.score.IsOverlong ∧ cause = .tooManyDigits ∧ left = w
  settled : ∀ r, AuditRecord.build i = .ok r → Tags.parse i.tags = .ok r.tags ∧
    ∃ b digest, Canonical.bytes r.members = .ok b ∧ Canonical.hash r.members = .ok digest

theorem build_returns_iff : (∃ r, AuditRecord.build i = .ok r) ↔ i.Encodable ∧ i.score.IsScore := by
  constructor
  · rintro ⟨r, made⟩
    rcases i.encodable_or_unencodable with plain | ⟨field, first⟩
    · have score := (AuditRecord.madeFrom_of_build made).score
      exact ⟨plain, Score.validate_returns_iff.mp ⟨_, AuditRecord.validate_eq_ok_iff.mpr score⟩⟩
    · rw [AuditRecord.build_of_unencodable first] at made
      cases made
  · rintro ⟨plain, fits⟩
    obtain ⟨score, taken⟩ := Score.validate_returns_iff.mpr fits
    rw [AuditRecord.build_of_encodable plain, taken]
    exact ⟨_, rfl⟩

theorem hash_of_unencodable {field : Text} (first : i.unencodable? = some field) (v : Verbosity)
    (w : World) : (hash v i).run w =
      (.ok 3, w.tell ("Invalid input: " ++ (AuditRecord.notText field).message ++ "\n")) := by
  have shown : ControlSequence.escape ∉ (AuditRecord.notText field).message ∧
      (AuditRecord.notText field).message.hasSurrogate = false := by
    rcases AuditInput.unencodable?_cases first with rfl | rfl | rfl | rfl | rfl | rfl <;>
      exact ⟨by decide, rfl⟩
  exact hash_of_invalid (AuditRecord.build_of_unencodable first) rfl shown.1 shown.2 v w

theorem outOfRange_shown (x : Scalar) : Json.Shown false (Score.outOfRange x.notate).message :=
  Json.shown_append.mpr ⟨Json.shown_append.mpr ⟨Json.shown_word rfl, x.shown_notate⟩, Json.shown_word rfl⟩

theorem hash_of_outOfRange (plain : i.Encodable) (unfit : ¬ i.score.IsScore) (short : ¬ i.score.IsOverlong)
    (v : Verbosity) (w : World) :
    AuditRecord.build i = .error (.known (Score.outOfRange i.score.notate)) ∧
      (hash v i).run w =
        (.ok 3, w.tell ("Invalid input: " ++ (Score.outOfRange i.score.notate).message ++ "\n")) := by
  have refused : AuditRecord.build i = .error (.known (Score.outOfRange i.score.notate)) := by
    rw [AuditRecord.build_of_encodable plain, Score.validate_of_not_isScore unfit,
      if_pos (Scalar.isWritable_iff.mpr short)]
    rfl
  have whole : (Score.outOfRange i.score.notate).message.hasSurrogate = false := by
    rw [Score.outOfRange, Text.hasSurrogate_append, Text.hasSurrogate_append, i.score.hasSurrogate_notate]
    rfl
  exact ⟨refused, hash_of_invalid refused rfl (outOfRange_shown i.score).clear whole v w⟩

theorem hash_of_overlong (plain : i.Encodable) (overlong : i.score.IsOverlong) (v : Verbosity) (w : World) :
    (hash v i).run w = (.error .tooManyDigits, w) := by
  have unwritable : ¬ i.score.isWritable = true := fun writable => Scalar.isWritable_iff.mp writable overlong
  refine hash_of_fault ?_ v w
  rw [AuditRecord.build_of_encodable plain,
    Score.validate_of_not_isScore (Scalar.not_isScore_of_isOverlong overlong), if_neg unwritable]
  rfl

/-- Every input ends in one of four ways: a hash, a named field, a shown score, or a fault for a score too
long to be shown. -/
theorem hash_ends (v : Verbosity) (i : AuditInput) (w : World) : HashEnds v i w := by
  have returns : (∃ left, Returns (hash v i) w 0 left) ↔ i.Encodable ∧ i.score.IsScore := by
    rw [← build_returns_iff]
    constructor
    · rintro ⟨left, ended⟩
      exact build_of_hash ended
    · rintro ⟨r, made⟩
      obtain ⟨shown, ran, -⟩ := hash_run made v w
      exact ⟨_, ran⟩
  constructor
  case completes => exact returns
  case prints =>
    intro left ended
    obtain ⟨r, made⟩ := build_of_hash ended
    obtain ⟨shown, ran, read⟩ := hash_run made v w
    obtain ⟨-, rfl⟩ := (Returns.of_run ran).mp ended
    have octets := Canonical.bytes_members (AuditRecord.madeFrom_of_build made).plain
    exact ⟨_, shown, AuditInput.hash_of_build made octets, rfl, read⟩
  case namesField =>
    intro field first
    exact ⟨AuditRecord.build_of_unencodable first, hash_of_unencodable first v w⟩
  case showsScore =>
    intro plain unfit short
    exact hash_of_outOfRange plain unfit short v w
  case leaves =>
    intro cause left
    constructor
    · intro failed
      rcases i.encodable_or_unencodable with plain | ⟨field, first⟩
      · have unfit : ¬ i.score.IsScore := by
          intro fits
          obtain ⟨other, ended⟩ := returns.mpr ⟨plain, fits⟩
          cases failed.symm.trans ended
        by_cases overlong : i.score.IsOverlong
        · rw [hash_of_overlong plain overlong] at failed
          cases failed
          exact ⟨plain, overlong, rfl, rfl⟩
        · rw [(hash_of_outOfRange plain unfit overlong v w).2] at failed
          cases failed
      · rw [hash_of_unencodable first] at failed
        cases failed
    · rintro ⟨plain, overlong, rfl, rfl⟩
      exact hash_of_overlong plain overlong v left
  case settled =>
    intro r made
    have origin := AuditRecord.madeFrom_of_build made
    have octets := Canonical.bytes_members origin.plain
    have parsed : Tags.parse i.tags = .ok r.tags := by
      rw [Tags.parse_of_plain origin.tagsPlain, origin.tags]
    exact ⟨parsed, _, _, octets, Canonical.hash_of_bytes octets⟩

/-- A surrogate in the prompt and another in the tags, a truth value for a score, and the highest score. -/
theorem hash_ends_refused :
    let w : World := ⟨⟨[], []⟩, [], [], [], [], [], []⟩
    (hash ⟨false, false⟩ ⟨"", [0xD800], .null, [0xDC00], "", "", ""⟩).run w =
      (.ok 3, w.tell "Invalid input: Field prompt is not valid UTF-8 text\n") ∧
    (hash ⟨true, false⟩ ⟨"", "", .truth true, "", "", "", ""⟩).run w =
      (.ok 3, w.tell "Invalid input: Score must be an integer between 0 and 255, got True.\n") ∧
    ∃ left, Returns (hash ⟨false, false⟩ ⟨"", "", .integer 255, "", "", "", ""⟩) w 0 left := by
  intro w
  refine ⟨?_, ?_, ?_⟩
  · exact ((hash_ends _ _ w).namesField "prompt" rfl).2
  · refine ((hash_ends ⟨true, false⟩ ⟨"", "", .truth true, "", "", "", ""⟩ w).showsScore ?_ ?_ ?_).2
    · decide
    · rintro ⟨_, same, -⟩
      cases same
    · rintro ⟨_, same, -⟩
      cases same
  · exact (hash_ends _ _ w).completes.mpr ⟨by decide, 255, rfl, by decide, by decide⟩

/-- The least score that is too long to be shown leaves as a fault, where an error in the input would be
reported. -/
theorem overlong_score_leaves :
    let w : World := ⟨⟨[], []⟩, [], [], [], [], [], []⟩
    (hash ⟨false, false⟩ ⟨"", "", .integer Integer.bound, "", "", "", ""⟩).run w =
      (.error .tooManyDigits, w) := by
  intro w
  have long : Integer.bound ≤ (Integer.bound : Int).natAbs := (Int.natAbs_natCast _).ge
  exact hash_of_overlong (by decide) ⟨_, rfl, long⟩ _ w

end Evidence
end BlobVault
