import BlobVault.Proofs.Json.Shown
import BlobVault.Proofs.Storage.BlobId
import BlobVault.Proofs.Storage.ErrorStatus

/-! The id of a response that a publisher serialises: the first value that stands for something at one of
four paths, in whatever style the response is written, and however its octets arrive. -/
namespace BlobVault

namespace Json

/-- The value at the end of a path of names, each of them a member of the object before. -/
def at? : List Text → Json → Option Json
  | [], v => some v
  | name :: path, .object members => (Members.get? name members).bind (at? path)
  | _ :: _, _ => none

/-- The octets of a written value are read as its text: ASCII always is, and everything else if the value
holds no surrogate. -/
theorem decodeLossy_write {s : Style} (separates : s.Separates) {depth : Nat} {v : Json}
    (readable : Readable s.ascii depth v)
    (encodable : s.ascii = false → ∀ t ∈ v.texts, t.hasSurrogate = false) :
    Utf8.decodeLossy (Text.utf8 (v.write s)) = v.write s := by
  apply Utf8.decodeLossy_utf8
  cases style : s.ascii with
  | true => exact Shown.plain (style ▸ shown_writeAt separates readable 0)
  | false =>
    rw [write, hasSurrogate_writeAt separates style (style ▸ readable)]
    exact List.any_eq_false.mpr fun t member => Bool.eq_false_iff.mp (encodable style t member)

end Json

namespace BlobId

/-- Where the id of a blob may stand in a response, in the order of preference. -/
def paths : List (List Text) :=
  [["newlyCreated", "blobObject", "blobId"], ["newlyCreated", "blobId"],
    ["alreadyCertified", "blobObject", "blobId"], ["alreadyCertified", "blobId"]]

def solidAt? (v : Json) (path : List Text) : Option Json := (v.at? path).filter (!·.isVoid)

def firstSolid? (v : Json) : Option Json := paths.findSome? (solidAt? v)

theorem solidAt?_single (name : Text) (m : Members) : solidAt? (.object m) [name] = solid? name m := by
  rw [solidAt?, Json.at?, solid?]
  cases m.get? name with
  | none => rfl
  | some v => cases void : v.isVoid <;> simp [Json.at?, Option.filter, void]

/-- A path of two names or more leads through the object that has the first one. -/
theorem solidAt?_object (name next : Text) (path : List Text) (m : Members) :
    solidAt? (.object m) (name :: next :: path) =
      (object? name m).bind fun inner => solidAt? (.object inner) (next :: path) := by
  rw [solidAt?, Json.at?, object?]
  cases m.get? name with
  | none => rfl
  | some v => cases v <;> rfl

theorem inEntry?_eq (entry : Members) :
    inEntry? entry =
      (solidAt? (.object entry) ["blobObject", "blobId"]).or (solidAt? (.object entry) ["blobId"]) := by
  rw [solidAt?_object, solidAt?_single, inEntry?]
  cases object? "blobObject" entry with
  | none => rfl
  | some blob => rw [Option.bind_some, solidAt?_single]

/-- The search in a response tries the paths in order. -/
theorem find?_eq (response : Members) : find? response = firstSolid? (.object response) := by
  have entry (name : Text) :
      (object? name response).bind inEntry? =
        (solidAt? (.object response) [name, "blobObject", "blobId"]).or
          (solidAt? (.object response) [name, "blobId"]) := by
    rw [solidAt?_object, solidAt?_object]
    cases object? name response with
    | none => rfl
    | some inner => exact inEntry?_eq inner
  have cons {α : Type} {f : α → Option Json} (x : α) (rest : List α) :
      (x :: rest).findSome? f = (f x).or (rest.findSome? f) := by
    rw [List.findSome?_cons]
    cases f x <;> rfl
  simp only [find?, firstSolid?, paths, entryNames, cons, entry, Option.or_assoc,
    List.findSome?_nil]

def outcome (v : Json) : Except Failure Text :=
  match firstSolid? v, v with
  | some id, _ => .ok id.display
  | none, .object _ => .error (.known missing)
  | none, _ => .error (.known notObject)

theorem outcome_of_found {v id : Json} (found : firstSolid? v = some id) : outcome v = .ok id.display := by
  unfold outcome
  rw [found]

theorem outcome_of_missing {v : Json} (missing : firstSolid? v = none) :
    ∃ e, e.kind = .transport ∧ outcome v = .error (.known e) := by
  unfold outcome
  rw [missing]
  cases v <;> exact ⟨_, rfl, rfl⟩

theorem parse_of_read {depth : Nat} {body : Text} {v : Json} (read : Json.read depth body = .ok v) :
    parse depth body = outcome v := by
  unfold parse outcome
  rw [read]
  cases v with
  | object response =>
    dsimp only
    rw [find?_eq]
    cases firstSolid? (.object response) <;> rfl
  | scalar | array => rfl

theorem solid_of_firstSolid? {v id : Json} (found : firstSolid? v = some id) : id.isVoid = false := by
  obtain ⟨path, -, here⟩ := List.exists_of_findSome?_eq_some found
  have solid := (Option.filter_eq_some_iff.mp here).2
  simpa using solid

theorem outcome_ne_empty (v : Json) : outcome v ≠ .ok [] := by
  intro empty
  cases found : firstSolid? v with
  | some id =>
    rw [outcome_of_found found] at empty
    exact Json.display_ne_nil (solid_of_firstSolid? found) (Except.ok.inj empty)
  | none =>
    obtain ⟨e, -, failed⟩ := outcome_of_missing found
    rw [failed] at empty
    contradiction

end BlobId

namespace Client

open BlobId (firstSolid?)

/-- How storing a blob goes on when one of its two candidates is answered with a response: its id settles the
operation, and a response without one fails just its candidate. -/
structure Answers (readDepth : Nat) (v : Json) (body : Bytes) (operation : Action Text)
    (first second : Request) : Prop where
  named : ∀ w id, w.nextReply.Delivers body → firstSolid? v = some id →
    operation.run w = (.ok id.display, w.sent [first])
  next : ∀ w, w.nextReply.Delivers body → firstSolid? v = none →
    operation.run w =
      (settle uploadFailed (storeVerdict readDepth second.url (w.sent [first]).nextReply),
        w.sent [first, second])
  named_last : ∀ w id, (∃ detail, storeVerdict readDepth first.url w.nextReply = .ok (.error detail)) →
    (w.sent [first]).nextReply.Delivers body → firstSolid? v = some id →
    operation.run w = (.ok id.display, w.sent [first, second])
  last : ∀ w, (∃ detail, storeVerdict readDepth first.url w.nextReply = .ok (.error detail)) →
    (w.sent [first]).nextReply.Delivers body → firstSolid? v = none →
    ∃ e, e.kind = .transport ∧ operation.run w = (.error (.known e), w.sent [first, second])

section Response

variable {readDepth : Nat} {v : Json} {body : Bytes}
  (parsed : BlobId.parse readDepth (Utf8.decodeLossy body) = BlobId.outcome v)
include parsed

section Verdict

variable {r : Reply} (delivers : r.Delivers body) (url : Text)
include delivers

theorem storeVerdict_named {id : Json} (found : firstSolid? v = some id) :
    storeVerdict readDepth url r = .ok (.ok id.display) := by
  exact (Stores.blobId delivers (parsed.trans (BlobId.outcome_of_found found))).storeVerdict_eq

theorem storeVerdict_unnamed (missing : firstSolid? v = none) :
    ∃ detail, storeVerdict readDepth url r = .ok (.error detail) := by
  obtain ⟨e, kind, failed⟩ := BlobId.outcome_of_missing missing
  exact ⟨_, (Stores.unusable delivers (parsed.trans failed) kind).storeVerdict_eq⟩

end Verdict

theorem firstSuccess_answers (first second : Request) :
    Answers readDepth v body (firstSuccess (storeVerdict readDepth) uploadFailed [first, second] [])
      first second where
  named w id delivers found := firstSuccess_run (.value (storeVerdict_named parsed delivers first.url found))
  next w delivers missing := by
    obtain ⟨detail, failed⟩ := storeVerdict_unnamed parsed delivers first.url missing
    exact firstSuccess_of_failed failed
  named_last w id failed delivers found := by
    obtain ⟨detail, failed⟩ := failed
    rw [firstSuccess_of_failed failed, storeVerdict_named parsed delivers second.url found]
    rfl
  last w failed delivers missing := by
    obtain ⟨detail, failed⟩ := failed
    obtain ⟨last, exhausted⟩ := storeVerdict_unnamed parsed delivers second.url missing
    refine ⟨uploadFailed last, rfl, ?_⟩
    rw [firstSuccess_of_failed failed, exhausted]
    rfl

end Response
end Client

/-- The id of a serialised response is the first value that stands for something at one of the paths, in
running text; one that is a text is the id as it is, and no id is empty. A publisher's reply with the
octets of the response is stored under that id. The reader has to follow the brackets of the response. -/
theorem parse_put_write {style : Json.Style} (separates : style.Separates) {depth : Nat} {v : Json}
    (readable : Json.Readable style.ascii depth v) :
    (∀ readDepth, depth ≤ readDepth →
      BlobId.parse readDepth (v.write style) = BlobId.outcome v ∧
      (∀ t, BlobId.firstSolid? v = some (.text t) → BlobId.parse readDepth (v.write style) = .ok t) ∧
      BlobId.parse readDepth (v.write style) ≠ .ok []) ∧
    ((style.ascii = false → ∀ t ∈ v.texts, t.hasSurrogate = false) →
      ∀ (s : Session) (payload : Bytes) (epochs : Int) (shown : Text), depth ≤ s.readDepth →
        Integer.text? epochs = some shown →
        Client.Answers s.readDepth v (Text.utf8 (v.write style)) (Client.put s payload epochs)
          (Client.storeRequest s payload shown "/v1/store")
          (Client.storeRequest s payload shown "/v1/blobs")) := by
  have parsed (readDepth : Nat) (followed : depth ≤ readDepth) :
      BlobId.parse readDepth (v.write style) = BlobId.outcome v :=
    BlobId.parse_of_read (Json.read_write separates (readable.deepen followed))
  constructor
  · intro readDepth followed
    refine ⟨parsed readDepth followed, fun t found => ?_, ?_⟩
    · exact (parsed readDepth followed).trans (BlobId.outcome_of_found found)
    · exact parsed readDepth followed ▸ BlobId.outcome_ne_empty v
  · intro encodable s payload epochs shown followed written
    have octets := Json.decodeLossy_write separates readable encodable
    rw [Client.put_eq payload written]
    exact Client.firstSuccess_answers (octets.symm ▸ parsed s.readDepth followed) _ _

/-- A certified blob whose object is a number, in a response that stands behind a refusal. -/
theorem parse_put_write_certified :
    let v : Json := .object [("alreadyCertified", .object [("blobObject", .nat 7), ("blobId", .text "x")])]
    let s : Session := ⟨"http://p", 30, false, 2⟩
    let busy : Reply := ⟨503, [], "busy", none⟩
    let named : Reply := ⟨200, Text.utf8 (v.write .indented), [], none⟩
    let w : World := ⟨⟨[], []⟩, [], [], [busy, named], [], [], []⟩
    Json.Readable true 2 v ∧ BlobId.parse 2 (v.write .indented) = .ok "x" ∧
      (Client.put s [7] 1).run w = (.ok "x", w.sent
        [Client.storeRequest s [7] (.ofInt 1) "/v1/store", Client.storeRequest s [7] (.ofInt 1) "/v1/blobs"]) := by
  intro v s busy named w
  have seven : 7 < Integer.bound := Nat.lt_trans (by decide) (Integer.pow_lt_bound (k := 1) (by decide))
  have readable : Json.Readable true 2 v := by
    refine .single (fun _ => Text.unpaired_of_plain rfl) (.object (by decide) ?_ ?_)
    · simp only [List.forall_mem_cons]
      exact ⟨fun _ => Text.unpaired_of_plain rfl, fun _ => Text.unpaired_of_plain rfl, nofun⟩
    · simp only [List.forall_mem_cons]
      exact ⟨.scalar seven, .scalar fun _ => Text.unpaired_of_plain rfl, nofun⟩
  have written := Integer.text?_of_small (i := 1) (k := 0) (by decide) (by decide)
  obtain ⟨parses, answers⟩ := parse_put_write Json.indented_separates readable
  obtain ⟨-, named, -⟩ := parses 2 Nat.le.refl
  have found : BlobId.firstSolid? v = some (.text "x") := rfl
  refine ⟨readable, named _ found, ?_⟩
  exact (answers nofun s [7] 1 _ Nat.le.refl written).named_last w _ ⟨_, rfl⟩ (Reply.delivers_iff.mpr rfl) found

end BlobVault
