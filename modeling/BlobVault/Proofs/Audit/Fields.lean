import BlobVault.Audit.Record
import BlobVault.Proofs.Json.Encoding
import BlobVault.Proofs.Result

/-! The canonical form of any object, whoever made it. Only the seven fields are read, in their order: the first
that is missing is named, whatever stands in the others, and what is written tells all values apart. -/
namespace BlobVault

namespace Members

theorem get?_cons (name other : Text) (held : Json) (rest : Members) :
    get? name ((other, held) :: rest) = if other = name then some held else get? name rest := by
  by_cases same : other = name <;> simp [get?, same]

/-- In an object whose names are distinct, what is looked up is what is there. -/
theorem get?_eq_some_iff {m : Members} (distinct : (m.map Prod.fst).Nodup) {name : Text} {value : Json} :
    m.get? name = some value ↔ (name, value) ∈ m := by
  induction m with
  | nil => simp [get?]
  | cons member rest ih =>
    obtain ⟨other, held⟩ := member
    rw [List.map_cons, List.nodup_cons] at distinct
    obtain ⟨new, distinct⟩ := distinct
    rw [get?_cons, List.mem_cons, Prod.mk.injEq, ← ih distinct]
    by_cases same : other = name
    · subst same
      have absent : ¬ get? other rest = some value := by
        rw [ih distinct]
        exact fun inside => new (List.mem_map.mpr ⟨_, inside, rfl⟩)
      simp only [if_true, Option.some.injEq, true_and, absent, or_false, eq_comm]
    · simp only [if_neg same, Ne.symm same, false_and, false_or]

/-- Objects with the same members under a name have the same value for it. -/
theorem get?_congr {m n : Members} (distinct : (m.map Prod.fst).Nodup) (other : (n.map Prod.fst).Nodup)
    {name : Text} (same : ∀ value, (name, value) ∈ m ↔ (name, value) ∈ n) : m.get? name = n.get? name := by
  ext value
  rw [get?_eq_some_iff distinct, get?_eq_some_iff other, same value]

end Members

namespace Canonical

open AuditRecord (fieldNames undecodable)

structure Values where
  action : Text
  prompt : Text
  score : Scalar
  tags : List Text
  decision : Text
  reason : Text
  timestamp : Text

/-- A score that can be recorded: an integer within the limit of digits, a truth value, null or a text. -/
def Recordable : Scalar → Prop
  | .integer i => i.natAbs < Integer.bound
  | .real _ => False
  | .null | .truth _ | .text _ => True

def textNames : List Text := ["action", "prompt", "decision", "reason", "timestamp"]

inductive HasType : Text → Json → Prop where
  | text (name t : Text) : name ∈ textNames → HasType name (.text t)
  | score (x : Scalar) : Recordable x → HasType "score" (.scalar x)
  | tags (ts : List Text) : HasType "tags" (.array (ts.map .text))

/-- Fields that are there have values of their types. -/
def Typed (m : Members) : Prop := ∀ name ∈ fieldNames, ∀ value, m.get? name = some value → HasType name value

def FirstMissing (m : Members) (name : Text) : Prop :=
  ∃ before after, fieldNames = before ++ name :: after ∧ (∀ earlier ∈ before, (m.get? earlier).isSome) ∧
    m.get? name = none

namespace Values

def members (v : Values) : Members :=
  [("action", .text v.action), ("prompt", .text v.prompt), ("score", .scalar v.score),
    ("tags", .array (v.tags.map .text)), ("decision", .text v.decision), ("reason", .text v.reason),
    ("timestamp", .text v.timestamp)]

def texts (v : Values) : List Text :=
  [v.action, v.prompt, v.decision, v.reason, v.timestamp] ++ v.tags ++ (Json.scalar v.score).texts

def Unencodable (v : Values) : Prop := ∃ t ∈ v.texts, t.hasSurrogate = true

instance (v : Values) : Decidable v.Unencodable := inferInstanceAs (Decidable (∃ t ∈ v.texts, _))

end Values

structure Carries (m : Members) (v : Values) : Prop where
  score : Recordable v.score
  found : ∀ member ∈ v.members, m.get? member.1 = some member.2

section Read

variable {m n : Members}

theorem HasType.text_of_mem {name : Text} {value : Json} (typed : HasType name value) (known : name ∈ textNames) :
    ∃ t, value = .text t := by
  cases typed with
  | text name t => exact ⟨t, rfl⟩
  | score x => exact absurd known (by decide)
  | tags ts => exact absurd known (by decide)

theorem HasType.score_of_eq {name : Text} {value : Json} (typed : HasType name value) (same : name = "score") :
    ∃ x, Recordable x ∧ value = .scalar x := by
  cases typed with
  | text name t known =>
    subst same
    exact absurd known (by decide)
  | score x recordable => exact ⟨x, recordable, rfl⟩
  | tags ts => exact absurd same (by decide)

theorem HasType.tags_of_eq {name : Text} {value : Json} (typed : HasType name value) (same : name = "tags") :
    ∃ ts : List Text, value = .array (ts.map .text) := by
  cases typed with
  | text name t known =>
    subst same
    exact absurd known (by decide)
  | score x recordable => exact absurd same (by decide)
  | tags ts => exact ⟨ts, rfl⟩

/-- An object whose fields are all there has values for them. -/
theorem carries_of_typed (typed : Typed m) (full : ∀ name ∈ fieldNames, m.get? name ≠ none) :
    ∃ v, Carries m v := by
  have value (name : Text) (known : name ∈ fieldNames) :
      ∃ value, m.get? name = some value ∧ HasType name value := by
    obtain ⟨value, found⟩ := Option.ne_none_iff_exists'.mp (full name known)
    exact ⟨value, found, typed name known value found⟩
  have written (name : Text) (known : name ∈ fieldNames) (kind : name ∈ textNames) :
      ∃ t, m.get? name = some (.text t) := by
    obtain ⟨value, found, typed⟩ := value name known
    obtain ⟨t, rfl⟩ := typed.text_of_mem kind
    exact ⟨t, found⟩
  obtain ⟨action, hasAction⟩ := written "action" (by decide) (by decide)
  obtain ⟨prompt, hasPrompt⟩ := written "prompt" (by decide) (by decide)
  obtain ⟨_, hasScore, scored⟩ := value "score" (by decide)
  obtain ⟨score, recordable, rfl⟩ := scored.score_of_eq rfl
  obtain ⟨_, hasTags, listed⟩ := value "tags" (by decide)
  obtain ⟨tags, rfl⟩ := listed.tags_of_eq rfl
  obtain ⟨decision, hasDecision⟩ := written "decision" (by decide) (by decide)
  obtain ⟨reason, hasReason⟩ := written "reason" (by decide) (by decide)
  obtain ⟨timestamp, hasTimestamp⟩ := written "timestamp" (by decide) (by decide)
  refine ⟨⟨action, prompt, score, tags, decision, reason, timestamp⟩, recordable, ?_⟩
  simp only [Values.members, List.forall_mem_cons]
  exact ⟨hasAction, hasPrompt, hasScore, hasTags, hasDecision, hasReason, hasTimestamp,
    fun _ inside => nomatch inside⟩

theorem missing_or_carries (typed : Typed m) : (∃ name, FirstMissing m name) ∨ ∃ v, Carries m v := by
  cases first : fieldNames.find? fun name => (m.get? name).isNone with
  | none =>
    refine .inr (carries_of_typed typed fun name known missing => ?_)
    exact List.find?_eq_none.mp first name known (Option.isNone_iff_eq_none.mpr missing)
  | some name =>
    obtain ⟨missing, before, after, split, present⟩ := List.find?_eq_some_iff_append.mp first
    refine .inl ⟨name, before, after, split, fun earlier inside => ?_, Option.isNone_iff_eq_none.mp missing⟩
    simpa using present earlier inside

/-- Members that are found under their names are read as they are. -/
theorem mapM_field_of_found {members : Members}
    (found : ∀ member ∈ members, m.get? member.1 = some member.2) :
    (members.map Prod.fst).mapM (field m) = .ok members := by
  induction members with
  | nil => rfl
  | cons member rest ih =>
    rw [List.forall_mem_cons] at found
    simp only [List.map_cons, List.mapM_cons, field, found.1, ih found.2, bind, Except.bind]
    rfl

/-- Reading stops at the first name that is missing. -/
theorem mapM_field_of_missing {before : List Text} (present : ∀ earlier ∈ before, (m.get? earlier).isSome)
    {name : Text} (missing : m.get? name = none) (after : List Text) :
    (before ++ name :: after).mapM (field m) = .error (.crash .missingMember [name]) := by
  induction before with
  | nil => simp only [List.nil_append, List.mapM_cons, field, missing, bind, Except.bind]
  | cons earlier before ih =>
    rw [List.forall_mem_cons] at present
    obtain ⟨value, found⟩ := Option.isSome_iff_exists.mp present.1
    simp only [List.cons_append, List.mapM_cons, field, found, ih present.2, bind, Except.bind]

theorem mapM_field_congr {names : List Text} (same : ∀ name ∈ names, m.get? name = n.get? name) :
    names.mapM (field m) = names.mapM (field n) := by
  induction names with
  | nil => rfl
  | cons name names ih =>
    rw [List.forall_mem_cons] at same
    simp only [List.mapM_cons, field, same.1, ih same.2]

theorem bytes_of_missing {name : Text} (first : FirstMissing m name) :
    bytes m = .error (.crash .missingMember [name]) := by
  obtain ⟨before, after, split, present, missing⟩ := first
  simp only [bytes, text, fields, split, mapM_field_of_missing present missing, bind, Except.bind]

/-- The canonical form depends on the seven fields alone. -/
theorem bytes_congr (same : ∀ name ∈ fieldNames, m.get? name = n.get? name) : bytes m = bytes n := by
  simp only [bytes, text, fields, mapM_field_congr same]

end Read

section Write

variable {v u : Values}

theorem readable_text (t : Text) (depth : Nat) : Json.Readable false depth (.text t) :=
  .scalar fun escaped => nomatch escaped

theorem readable_score {x : Scalar} (recordable : Recordable x) (depth : Nat) :
    Json.Readable false depth (.scalar x) := by
  apply Json.Readable.scalar
  cases x with
  | integer i => exact recordable
  | real r => cases recordable
  | null | truth b => trivial
  | text t => exact fun escaped => nomatch escaped

theorem Values.readable (recordable : Recordable v.score) :
    Json.Readable false 2 (.object v.members) := by
  have distinct : fieldNames.Nodup := by decide
  refine .object distinct (fun _ _ escaped => nomatch escaped) ?_
  simp only [members, List.forall_mem_cons]
  refine ⟨readable_text _ _, readable_text _ _, readable_score recordable _, .array ?_, readable_text _ _,
    readable_text _ _, readable_text _ _, fun _ member => nomatch member⟩
  intro item member
  obtain ⟨tag, -, rfl⟩ := List.mem_map.mp member
  exact readable_text tag _

theorem itemTexts_text (tags : List Text) : Json.itemTexts (tags.map .text) = tags := by
  induction tags with
  | nil => rfl
  | cons tag rest ih =>
    rw [List.map_cons, Json.itemTexts, ih]
    rfl

theorem texts_tags (tags : List Text) : (Json.array (tags.map .text)).texts = tags := itemTexts_text tags

/-- What is written holds the names of the fields and the texts among the values. -/
theorem Values.mem_texts {t : Text} :
    t ∈ (Json.object v.members).texts ↔ t ∈ fieldNames ∨ t ∈ v.texts := by
  have one (t : Text) : (Json.text t).texts = [t] := rfl
  rw [Json.texts, Json.memberTexts_eq]
  simp only [members, List.flatMap_cons, List.flatMap_nil, one, texts_tags, fieldNames, texts, List.mem_append,
    List.mem_cons, List.not_mem_nil, or_false]
  grind

theorem Values.hasSurrogate_write (recordable : Recordable v.score) :
    ((Json.object v.members).write .compact).hasSurrogate = true ↔ v.Unencodable := by
  have names : ∀ name ∈ fieldNames, name.hasSurrogate = false := by decide
  rw [Json.write, Json.hasSurrogate_writeAt Json.compact_separates rfl (readable recordable), List.any_eq_true]
  constructor
  · rintro ⟨t, inside, surrogate⟩
    rcases mem_texts.mp inside with named | given
    · rw [names t named] at surrogate
      contradiction
    · exact ⟨t, given, surrogate⟩
  · rintro ⟨t, given, surrogate⟩
    exact ⟨t, mem_texts.mpr (.inr given), surrogate⟩

theorem Values.plain_write (recordable : Recordable v.score) (encodable : ¬ v.Unencodable) :
    ((Json.object v.members).write .compact).hasSurrogate = false :=
  Bool.eq_false_iff.mpr (mt (hasSurrogate_write recordable).mp encodable)

theorem fields_of_carries {m : Members} (carries : Carries m v) : fields m = .ok v.members :=
  mapM_field_of_found carries.found

theorem text_of_carries {m : Members} (carries : Carries m v) :
    text m = if ((Json.object v.members).write .compact).hasSurrogate then .error (.known undecodable)
      else .ok ((Json.object v.members).write .compact) := by
  have writable := Json.isWritable_of_readable (Values.readable carries.score)
  simp only [text, fields_of_carries carries, writable, bind, Except.bind, Bool.not_true, Bool.false_eq_true,
    if_false]

theorem bytes_of_unencodable {m : Members} (carries : Carries m v) (unencodable : v.Unencodable) :
    bytes m = .error (.known undecodable) := by
  have surrogate := (Values.hasSurrogate_write carries.score).mpr unencodable
  simp only [bytes, text_of_carries carries, if_pos surrogate, bind, Except.bind]

theorem bytes_of_encodable {m : Members} (carries : Carries m v) (encodable : ¬ v.Unencodable) :
    bytes m = .ok (Text.utf8 ((Json.object v.members).write .compact)) := by
  have plain := Values.plain_write carries.score encodable
  simp only [bytes, text_of_carries carries, plain, bind, Except.bind]
  rfl

theorem Values.members_injective (same : v.members = u.members) : v = u := by
  have textInjective : Function.Injective Json.text := fun _ _ h => by simpa [Json.text] using h
  obtain ⟨action, prompt, score, tags, decision, reason, timestamp⟩ := v
  simp only [members, Json.text, List.cons.injEq, Prod.mk.injEq, true_and, Json.scalar.injEq,
    Scalar.text.injEq, Json.array.injEq, (List.map_injective_iff.mpr textInjective).eq_iff, and_true] at same
  obtain ⟨rfl, rfl, rfl, rfl, rfl, rfl, rfl⟩ := same
  rfl

/-- The octets of the canonical form determine the values. -/
theorem values_of_bytes {m n : Members} {b : Bytes} (carries : Carries m v) (other : Carries n u)
    (left : bytes m = .ok b) (right : bytes n = .ok b) : v = u := by
  -- Octets determine a text only if it has an encoding, which texts with a canonical form have.
  have encodable {m : Members} {v : Values} (carries : Carries m v) (written : bytes m = .ok b) :
      ¬ v.Unencodable := by
    intro unencodable
    cases written.symm.trans (bytes_of_unencodable carries unencodable)
  have first := encodable carries left
  have second := encodable other right
  rw [bytes_of_encodable carries first, Except.ok.injEq] at left
  rw [bytes_of_encodable other second, Except.ok.injEq] at right
  have written := Text.utf8_injective (Values.plain_write carries.score first)
    (Values.plain_write other.score second) (left.trans right.symm)
  have read := Json.read_write Json.compact_separates (Values.readable carries.score)
  rw [written, Json.read_write Json.compact_separates (Values.readable other.score), Except.ok.injEq,
    Json.object.injEq] at read
  exact Values.members_injective read.symm

end Write

/-- Exactly the seven fields are read. When fields are missing, the first of them is named, whatever the others
hold. When all are there with values of their types, the canonical form exists unless one of the texts has no
encoding, and no other error is possible. Neither the order of the members nor what else is among them matters,
and objects have the same canonical form exactly when all seven values are equal. -/
theorem bytes_of_any :
    (∀ m, Typed m → (∃ name, FirstMissing m name) ∨ ∃ v, Carries m v) ∧
    (∀ m name, FirstMissing m name → bytes m = .error (.crash .missingMember [name])) ∧
    (∀ m v, Carries m v → (v.Unencodable → bytes m = .error (.known undecodable)) ∧
      (¬ v.Unencodable → ∃ b, bytes m = .ok b)) ∧
    (∀ m n, (m.map Prod.fst).Nodup → (n.map Prod.fst).Nodup →
      (∀ name ∈ fieldNames, ∀ value, (name, value) ∈ m ↔ (name, value) ∈ n) → bytes m = bytes n) ∧
    ∀ m n v u b, Carries m v → Carries n u → bytes m = .ok b → (bytes n = .ok b ↔ v = u) := by
  refine ⟨fun m => missing_or_carries, fun m name => bytes_of_missing, ?_, ?_, ?_⟩
  · intro m v carries
    exact ⟨bytes_of_unencodable carries, fun encodable => ⟨_, bytes_of_encodable carries encodable⟩⟩
  · intro m n distinct other same
    exact bytes_congr fun name known => Members.get?_congr distinct other (same name known)
  · intro m n v u b carries other written
    constructor
    · exact values_of_bytes carries other written
    · rintro rfl
      have same : bytes n = bytes m := by
        simp only [bytes, text_of_carries carries, text_of_carries other]
      exact same.trans written

/-- The score 1, the truth value and the digit have canonical forms of their own, and the first of them has the
same one with its members backwards behind another member. Where the score and the last three fields are missing,
the score is named, although the action holds a surrogate; a score that holds one is refused. -/
theorem bytes_of_any_scores :
    let lone : Text := [0xD800]
    let record (score : Scalar) : Values := ⟨"mint", "", score, ["b", "a"], "allow", "", "now"⟩
    let shuffled (v : Values) : Members := ("extra", .scalar (.real .nan)) :: v.members.reverse
    (∃ a b c, bytes (record (.integer 1)).members = .ok a ∧ bytes (record (.truth true)).members = .ok b ∧
      bytes (record (.text "1")).members = .ok c ∧ a ≠ b ∧ a ≠ c ∧ b ≠ c ∧
      bytes (shuffled (record (.integer 1))) = .ok a) ∧
    bytes (record (.text lone)).members = .error (.known undecodable) ∧
    let short : Members := [("tags", .array []), ("prompt", .text ""), ("action", .text lone)]
    (∃ name, FirstMissing short name) ∧ bytes short = .error (.crash .missingMember ["score"]) := by
  intro lone record shuffled
  obtain ⟨either, missing, ends, alike, separates⟩ := bytes_of_any
  have carries {score : Scalar} (recordable : Recordable score) : Carries (record score).members (record score) := by
    refine ⟨recordable, ?_⟩
    simp only [Values.members, List.forall_mem_cons]
    exact ⟨rfl, rfl, rfl, rfl, rfl, rfl, rfl, fun _ inside => nomatch inside⟩
  have one : Recordable (.integer 1) := Nat.lt_trans (by decide) (Integer.pow_lt_bound (k := 1) (by decide))
  have truth : Recordable (.truth true) := trivial
  have written (t : Text) : Recordable (.text t) := trivial
  have exist (score : Scalar) (recordable : Recordable score) (encodable : ¬ (record score).Unencodable) :=
    (ends _ _ (carries recordable)).2 encodable
  obtain ⟨a, first⟩ := exist (.integer 1) one (by decide)
  obtain ⟨b, second⟩ := exist (.truth true) truth (by decide)
  obtain ⟨c, third⟩ := exist (.text "1") (written "1") (by decide)
  have apart {score other : Scalar} (recordable : Recordable score) (holds : Recordable other) {b c : Bytes}
      (left : bytes (record score).members = .ok b) (right : bytes (record other).members = .ok c)
      (different : score ≠ other) : b ≠ c := by
    rintro rfl
    have same := (separates _ _ _ _ _ (carries recordable) (carries holds) left).mp right
    exact different (congrArg Values.score same)
  refine ⟨⟨a, b, c, first, second, third, ?_, ?_, ?_, ?_⟩, ?_, ?_⟩
  · exact apart one truth first second (by decide)
  · exact apart one (written "1") first third (by decide)
  · exact apart truth (written "1") second third (by decide)
  · rw [← first]
    refine alike _ _ (by decide) (by decide) fun name known value => ?_
    have other : name ≠ "extra" := by
      rintro rfl
      exact absurd known (by decide)
    simp only [shuffled, List.mem_cons, Prod.mk.injEq, other, false_and, false_or, List.mem_reverse]
  · exact (ends _ _ (carries (written lone))).1 (by decide)
  · intro short
    have first : FirstMissing short "score" :=
      ⟨["action", "prompt"], ["tags", "decision", "reason", "timestamp"], rfl, by decide, rfl⟩
    have typed : Typed short := by
      intro name known value found
      rw [Members.get?_eq_some_iff (by decide)] at found
      simp only [short, List.mem_cons, Prod.mk.injEq, List.not_mem_nil, or_false] at found
      rcases found with ⟨rfl, rfl⟩ | ⟨rfl, rfl⟩ | ⟨rfl, rfl⟩
      · exact .tags []
      · exact .text _ _ (by decide)
      · exact .text _ _ (by decide)
    refine ⟨(either short typed).resolve_right ?_, missing short "score" first⟩
    rintro ⟨v, carries⟩
    have found := carries.found ("score", .scalar v.score) (by simp [Values.members])
    cases (show short.get? "score" = none from rfl).symm.trans found

end Canonical
end BlobVault
