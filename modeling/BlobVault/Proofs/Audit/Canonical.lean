import BlobVault.Proofs.Audit.Fields
import BlobVault.Proofs.Audit.Tags

/-! The canonical form separates records. It always exists for a record that was accepted, it reads back,
and records with the same octets were made of the same values and the same set of labels. -/
namespace BlobVault

namespace AuditRecord

structure Plain (r : AuditRecord) : Prop where
  action : r.action.hasSurrogate = false
  prompt : r.prompt.hasSurrogate = false
  tags : ∀ tag ∈ r.tags, tag.hasSurrogate = false
  decision : r.decision.hasSurrogate = false
  reason : r.reason.hasSurrogate = false
  timestamp : r.timestamp.hasSurrogate = false

structure MadeFrom (i : AuditInput) (r : AuditRecord) : Prop where
  action : r.action = i.action
  prompt : r.prompt = i.prompt
  score : i.score = .integer r.score.toNat
  tags : r.tags = Tags.normalize (Tags.labels i.tags)
  decision : r.decision = i.decision
  reason : r.reason = i.reason
  timestamp : r.timestamp = i.timestamp
  plain : r.Plain
  tagsPlain : i.tags.hasSurrogate = false

theorem checkText_eq_ok_iff {field value : Text} {done : Unit} :
    checkText field value = .ok done ↔ value.hasSurrogate = false := by
  unfold checkText
  split <;> simp_all

theorem validate_eq_ok_iff {value : Scalar} {score : Score} :
    Score.validate value = .ok score ↔ value = .integer score.toNat := by
  have bound := score.toNat_lt
  cases value with
  | integer i =>
    simp only [Score.validate, Scalar.integer.injEq]
    by_cases inside : 0 ≤ i ∧ i ≤ 255
    · rw [if_pos inside, Except.ok.injEq, ← UInt8.toNat_inj, Utf8.toNat_octet (by omega)]
      omega
    · rw [if_neg inside]
      split <;> simp <;> omega
  | null | truth _ | real _ | text _ => simp [Score.validate]

theorem madeFrom_of_build {i : AuditInput} {r : AuditRecord} (accepted : build i = .ok r) :
    MadeFrom i r := by
  simp only [build, bind_eq_ok_iff, checkText_eq_ok_iff, validate_eq_ok_iff, exists_const,
    Except.ok.injEq] at accepted
  obtain ⟨action, prompt, tags, decision, reason, timestamp, score, value, found, parsed, rfl⟩ := accepted
  rw [Tags.parse_of_plain tags] at parsed
  cases parsed
  constructor
  case plain =>
    have tagsPlain : ∀ tag ∈ Tags.normalize (Tags.labels i.tags), tag.hasSurrogate = false :=
      fun tag member => Tags.plain_of_mem_labels tags (Tags.mem_normalize.mp member)
    exact ⟨action, prompt, tagsPlain, decision, reason, timestamp⟩
  case score => exact value
  case tagsPlain => exact tags
  all_goals rfl

theorem score_short (score : Score) : (score.toNat : Int).natAbs < Integer.bound := by
  have bound := score.toNat_lt
  have limit : 1000 < Integer.bound := Integer.pow_lt_bound (k := 3) (by decide)
  omega

def values (r : AuditRecord) : Canonical.Values :=
  ⟨r.action, r.prompt, .integer r.score.toNat, r.tags, r.decision, r.reason, r.timestamp⟩

theorem members_values (r : AuditRecord) : r.values.members = r.members := rfl

theorem recordable_values (r : AuditRecord) : Canonical.Recordable r.values.score := score_short r.score

theorem values_injective {r q : AuditRecord} (same : r.values = q.values) : r = q := by
  obtain ⟨action, prompt, score, tags, decision, reason, timestamp⟩ := r
  simp only [values, Canonical.Values.mk.injEq, Scalar.integer.injEq, Int.natCast_inj, UInt8.toNat_inj] at same
  obtain ⟨rfl, rfl, rfl, rfl, rfl, rfl, rfl⟩ := same
  rfl

theorem readable_members (r : AuditRecord) :
    Json.Readable false 2 (.object r.members) :=
  Canonical.Values.readable r.recordable_values

theorem carries_members (r : AuditRecord) : Canonical.Carries r.members r.values := by
  refine ⟨r.recordable_values, ?_⟩
  rw [members_values, members]
  simp only [List.forall_mem_cons]
  exact ⟨rfl, rfl, rfl, rfl, rfl, rfl, rfl, fun _ inside => nomatch inside⟩

theorem Plain.encodable {r : AuditRecord} (plain : r.Plain) : ¬ r.values.Unencodable := by
  rintro ⟨t, inside, surrogate⟩
  have given : ∀ t ∈ r.values.texts, t.hasSurrogate = false := by
    simp only [values, Canonical.Values.texts, List.forall_mem_append, List.forall_mem_cons]
    exact ⟨⟨⟨plain.action, plain.prompt, plain.decision, plain.reason, plain.timestamp, List.forall_mem_nil _⟩,
      plain.tags⟩, List.forall_mem_nil _⟩
  rw [given t inside] at surrogate
  contradiction

end AuditRecord

namespace Canonical

open AuditRecord

theorem plain_write {r : AuditRecord} (plain : r.Plain) :
    ((Json.object r.members).write .compact).hasSurrogate = false := by
  have written := Values.plain_write r.recordable_values plain.encodable
  rwa [members_values] at written

/-- The canonical form of a record whose texts have an encoding. -/
theorem text_members {r : AuditRecord} (plain : r.Plain) :
    text r.members = .ok ((Json.object r.members).write .compact) := by
  rw [text_of_carries r.carries_members, members_values, plain_write plain]
  rfl

theorem bytes_members {r : AuditRecord} (plain : r.Plain) :
    bytes r.members = .ok (Text.utf8 ((Json.object r.members).write .compact)) := by
  have written := bytes_of_encodable r.carries_members plain.encodable
  rwa [members_values] at written

/-- The octets of the canonical form determine the record. -/
theorem bytes_members_injective {r q : AuditRecord} {b : Bytes} (left : bytes r.members = .ok b)
    (right : bytes q.members = .ok b) : r = q :=
  values_injective (values_of_bytes r.carries_members q.carries_members left right)

end Canonical

/-- Two inputs that differ at most in how their tags are written: in order, in repetition and in the
blanks around them. -/
structure AuditInput.Same (i j : AuditInput) : Prop where
  action : i.action = j.action
  prompt : i.prompt = j.prompt
  score : i.score = j.score
  tags : ∀ label, Tags.HasLabel i.tags label ↔ Tags.HasLabel j.tags label
  decision : i.decision = j.decision
  reason : i.reason = j.reason
  timestamp : i.timestamp = j.timestamp

theorem AuditRecord.MadeFrom.eq_iff {i j : AuditInput} {r q : AuditRecord} (first : MadeFrom i r)
    (second : MadeFrom j q) : r = q ↔ i.Same j := by
  have labels := Tags.normalize_labels_eq_iff first.tagsPlain second.tagsPlain
  constructor
  · rintro rfl
    constructor
    case action => exact first.action.symm.trans second.action
    case prompt => exact first.prompt.symm.trans second.prompt
    case score => exact first.score.trans second.score.symm
    case tags => exact labels.mp (first.tags.symm.trans second.tags)
    case decision => exact first.decision.symm.trans second.decision
    case reason => exact first.reason.symm.trans second.reason
    case timestamp => exact first.timestamp.symm.trans second.timestamp
  · intro same
    have score : Scalar.integer r.score.toNat = .integer q.score.toNat :=
      first.score.symm.trans (same.score.trans second.score)
    rw [Scalar.integer.injEq, Int.natCast_inj, UInt8.toNat_inj] at score
    have action := first.action.trans (same.action.trans second.action.symm)
    have prompt := first.prompt.trans (same.prompt.trans second.prompt.symm)
    have tags := first.tags.trans ((labels.mpr same.tags).trans second.tags.symm)
    have decision := first.decision.trans (same.decision.trans second.decision.symm)
    have reason := first.reason.trans (same.reason.trans second.reason.symm)
    have timestamp := first.timestamp.trans (same.timestamp.trans second.timestamp.symm)
    cases r
    cases q
    simp only at score action prompt tags decision reason timestamp
    rw [score, action, prompt, tags, decision, reason, timestamp]

theorem AuditInput.hash_of_build {i : AuditInput} {r : AuditRecord} {b : Bytes}
    (accepted : AuditRecord.build i = .ok r) (octets : Canonical.bytes r.members = .ok b) :
    i.hash = .ok ("0x" ++ Canonical.checksum b) := by
  simp only [AuditInput.hash, accepted, bind, Except.bind, Canonical.hash, octets]
  rfl

theorem checksum_eq_iff {b c : Bytes} :
    Canonical.checksum b = Canonical.checksum c ↔ Digest.sha256 b = Digest.sha256 c :=
  ⟨Hex.write_injective, congrArg Hex.write⟩

/-- Accepted inputs have canonical forms, and these are equal exactly for the same values and the same
set of labels. Inputs that are the same share their hash; a hash that others share is a collision of the
digest. -/
theorem canonical_separates {i j : AuditInput} {r q : AuditRecord} (first : AuditRecord.build i = .ok r)
    (second : AuditRecord.build j = .ok q) :
    ∃ b c, Canonical.bytes r.members = .ok b ∧ Canonical.bytes q.members = .ok c ∧
      (b = c ↔ i.Same j) ∧ (i.Same j → i.hash = j.hash) ∧
      (¬ i.Same j → i.hash = j.hash → b ≠ c ∧ Digest.sha256 b = Digest.sha256 c) := by
  have made := AuditRecord.madeFrom_of_build first
  have other := AuditRecord.madeFrom_of_build second
  have left := Canonical.bytes_members made.plain
  have right := Canonical.bytes_members other.plain
  have equal : Text.utf8 ((Json.object r.members).write .compact) =
      Text.utf8 ((Json.object q.members).write .compact) ↔ i.Same j := by
    rw [← made.eq_iff other]
    constructor
    · intro same
      exact Canonical.bytes_members_injective (same ▸ left) right
    · rintro rfl
      rfl
  refine ⟨_, _, left, right, equal, ?_, ?_⟩
  · intro same
    rw [AuditInput.hash_of_build first left, AuditInput.hash_of_build second right, equal.mpr same]
  · intro different shared
    refine ⟨fun same => different (equal.mp same), ?_⟩
    rw [AuditInput.hash_of_build first left, AuditInput.hash_of_build second right, Except.ok.injEq,
      List.append_cancel_left_eq] at shared
    exact checksum_eq_iff.mp shared

/-- The same labels in another order, one of them twice, with blanks and an empty piece between. -/
theorem hash_reordered_tags :
    AuditInput.hash ⟨"mint", "", .integer 7, "b, a", "allow", "", ""⟩ =
      AuditInput.hash ⟨"mint", "", .integer 7, "a,b ,,a", "allow", "", ""⟩ := by
  have first : AuditRecord.build ⟨"mint", "", .integer 7, "b, a", "allow", "", ""⟩ =
      .ok ⟨"mint", "", 7, ["a", "b"], "allow", "", ""⟩ := rfl
  have second : AuditRecord.build ⟨"mint", "", .integer 7, "a,b ,,a", "allow", "", ""⟩ =
      .ok ⟨"mint", "", 7, ["a", "b"], "allow", "", ""⟩ := rfl
  have labels : ∀ label, Tags.HasLabel "b, a" label ↔ Tags.HasLabel "a,b ,,a" label := by
    have ordered : Tags.labels "b, a" = ([("b" : Text), "a"] : List Text) := rfl
    have repeated : Tags.labels "a,b ,,a" = ([("a" : Text), "b", "a"] : List Text) := rfl
    intro label
    rw [← Tags.mem_labels_iff, ← Tags.mem_labels_iff, ordered, repeated]
    simp only [List.mem_cons, List.not_mem_nil, or_false]
    tauto
  obtain ⟨b, c, -, -, -, shared, -⟩ := canonical_separates first second
  exact shared ⟨rfl, rfl, rfl, labels, rfl, rfl, rfl⟩

end BlobVault
