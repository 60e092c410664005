import BlobVault.Proofs.Json.Nesting
import BlobVault.Proofs.Storage.Response

/-! Bodies that nobody vouches for. Whatever octets a publisher replies with, storing a blob ends with an id
or with an error of the transport, and a body without an id is followed by the second candidate, as long
as no brackets in it are nested deeper than the reader of JSON follows. Deeper ones leave. -/
namespace BlobVault

theorem Reply.delivers_served (content : Bytes) : Reply.Delivers ⟨200, content, [], none⟩ content :=
  delivers_iff.mpr rfl

namespace BlobId

/-- A result that callers are told of: an id, which is never empty, or an error of the transport. -/
inductive Settled : Except Failure Text → Prop where
  | id {name : Text} : name ≠ [] → Settled (.ok name)
  | unusable {e : VaultError} : e.kind = .transport → Settled (.error (.known e))

theorem outcome_settled (v : Json) : Settled (outcome v) := by
  cases found : firstSolid? v with
  | some id =>
    rw [outcome_of_found found]
    exact .id (Json.display_ne_nil (solid_of_firstSolid? found))
  | none =>
    obtain ⟨e, kind, failed⟩ := outcome_of_missing found
    rw [failed]
    exact .unusable kind

variable {readDepth : Nat}

theorem parse_deep {body : Text} {container : Json.Reader.Container}
    (deep : Json.read readDepth body = .error (.tooDeep container)) :
    parse readDepth body = .error (nestingFailure container) := by
  rw [parse, deep]

/-- Brackets that are one too many are all that can keep a body from being settled. -/
theorem parse_settled_iff {body : Text} :
    Settled (parse readDepth body) ↔ ∀ container, Json.read readDepth body ≠ .error (.tooDeep container) := by
  constructor
  · intro settled container deep
    rw [parse_deep deep] at settled
    cases container <;> nomatch settled
  · intro followed
    cases read : Json.read readDepth body with
    | ok v =>
      rw [parse_of_read read]
      exact outcome_settled v
    | error fault =>
      cases fault with
      | malformed =>
        rw [parse, read]
        exact .unusable rfl
      | tooDeep container => exact absurd read (followed container)

end BlobId

namespace Client

open BlobId (Settled)
open Json (nesting)

/-- The octets of a reply that was served, in which no bracket is one too many for the reader of JSON. -/
structure Shallow (readDepth : Nat) (r : Reply) (body : Bytes) : Prop where
  delivers : r.Delivers body
  followed : ∀ container, Json.read readDepth (Utf8.decodeLossy body) ≠ .error (.tooDeep container)

variable {readDepth : Nat}

namespace Shallow

variable {r : Reply} {body : Bytes} (shallow : Shallow readDepth r body)
include shallow

theorem stores_id (url : Text) {name : Text}
    (usable : BlobId.parse readDepth (Utf8.decodeLossy body) = .ok name) :
    storeVerdict readDepth url r = .ok (.ok name) :=
  (Stores.blobId shallow.delivers usable).storeVerdict_eq

theorem stores_failed (url : Text)
    (unusable : ∀ name, BlobId.parse readDepth (Utf8.decodeLossy body) ≠ .ok name) :
    ∃ detail, storeVerdict readDepth url r = .ok (.error detail) := by
  have settled := BlobId.parse_settled_iff.mpr shallow.followed
  cases parsed : BlobId.parse readDepth (Utf8.decodeLossy body) with
  | ok name => exact absurd parsed (unusable name)
  | error cause =>
    rw [parsed] at settled
    cases settled with
    | unusable kind => exact ⟨_, (Stores.unusable shallow.delivers parsed kind).storeVerdict_eq⟩

theorem settles (url : Text) : Settled (settle uploadFailed (storeVerdict readDepth url r)) := by
  by_cases usable : ∃ name, BlobId.parse readDepth (Utf8.decodeLossy body) = .ok name
  · obtain ⟨name, parsed⟩ := usable
    have settled := BlobId.parse_settled_iff.mpr shallow.followed
    rw [shallow.stores_id url parsed]
    rw [parsed] at settled
    exact settled
  · obtain ⟨detail, failed⟩ := shallow.stores_failed url (not_exists.mp usable)
    rw [failed]
    exact .unusable rfl

end Shallow

theorem storeVerdict_deep {r : Reply} {body : Bytes} (delivers : r.Delivers body)
    {container : Json.Reader.Container}
    (deep : Json.read readDepth (Utf8.decodeLossy body) = .error (.tooDeep container)) (url : Text) :
    storeVerdict readDepth url r = .error (BlobId.nestingFailure container) := by
  rw [storeVerdict, verdict_content_iff.mpr delivers]
  dsimp only
  rw [BlobId.parse_deep deep]
  cases container <;> rfl

/-- What served replies make of storing a blob, whatever octets they bring: the first id that is usable,
and a second request exactly behind a body without one. A body that is nested too deep leaves. -/
structure SettlesAny (readDepth : Nat) (operation : Action Text) (first second : Request) : Prop where
  usable : ∀ w body name, Shallow readDepth w.nextReply body →
    BlobId.parse readDepth (Utf8.decodeLossy body) = .ok name → operation.run w = (.ok name, w.sent [first])
  next : ∀ w body, Shallow readDepth w.nextReply body →
    (∀ name, BlobId.parse readDepth (Utf8.decodeLossy body) ≠ .ok name) →
    operation.run w =
      (settle uploadFailed (storeVerdict readDepth second.url (w.sent [first]).nextReply),
        w.sent [first, second])
  settled : ∀ w body other, Shallow readDepth w.nextReply body →
    Shallow readDepth (w.sent [first]).nextReply other → Settled (operation.run w).1
  leaves : ∀ w body container, w.nextReply.Delivers body →
    Json.read readDepth (Utf8.decodeLossy body) = .error (.tooDeep container) →
    operation.run w = (.error (BlobId.nestingFailure container), w.sent [first])

theorem firstSuccess_settlesAny (first second : Request) :
    SettlesAny readDepth (firstSuccess (storeVerdict readDepth) uploadFailed [first, second] [])
      first second where
  usable w body name shallow usable := firstSuccess_run (.value (shallow.stores_id first.url usable))
  next w body shallow unusable := by
    obtain ⟨detail, failed⟩ := shallow.stores_failed first.url unusable
    exact firstSuccess_of_failed failed
  settled w body other shallow shallow' := by
    by_cases usable : ∃ name, BlobId.parse readDepth (Utf8.decodeLossy body) = .ok name
    · obtain ⟨name, parsed⟩ := usable
      have settled := shallow.settles first.url
      have stored := shallow.stores_id first.url parsed
      rw [firstSuccess_run (.value stored)]
      rw [stored] at settled
      exact settled
    · obtain ⟨detail, failed⟩ := shallow.stores_failed first.url (not_exists.mp usable)
      rw [firstSuccess_of_failed failed]
      exact shallow'.settles second.url
  leaves w body container delivers deep :=
    firstSuccess_run (.left (storeVerdict_deep delivers deep first.url))

theorem not_deep_of_nesting {body : Text} (shallow : nesting body ≤ readDepth)
    (container : Json.Reader.Container) : Json.read readDepth body ≠ .error (.tooDeep container) := by
  intro deep
  exact Nat.not_lt.mpr shallow (Json.deep_of_refused deep)

/-- Opening brackets, more of them than the reader follows, end storing a blob with the fault of the reader
behind the first request. -/
theorem put_of_brackets {s : Session} {payload : Bytes} {epochs : Int} {shown : Text}
    (written : Integer.text? epochs = some shown) {count : Nat} (deep : s.readDepth < count) {w : World}
    (delivers : w.nextReply.Delivers (Text.utf8 (List.replicate count ('[' : CodePoint)))) :
    (put s payload epochs).run w =
      (.error (BlobId.nestingFailure .array), w.sent [storeRequest s payload shown "/v1/store"]) := by
  have refused := Json.read_brackets deep []
  have octets := Utf8.decodeLossy_utf8 (Text.hasSurrogate_replicate (c := '[') rfl count)
  rw [List.append_nil, ← octets] at refused
  have operation : SettlesAny s.readDepth (put s payload epochs)
      (storeRequest s payload shown "/v1/store") (storeRequest s payload shown "/v1/blobs") := by
    rw [put_eq payload written]
    exact firstSuccess_settlesAny _ _
  exact operation.leaves w _ _ delivers refused

/-- Every body is settled unless brackets are nested too deep in it for the reader, and so is storing a blob.
They are not nested too deep when a scan of the body never finds more of them open than the reader follows,
and no reader follows all brackets. -/
theorem parse_put_settle (s : Session) (payload : Bytes) (epochs : Int) :
    (∀ readDepth body, Settled (BlobId.parse readDepth body) ↔
      ∀ container, Json.read readDepth body ≠ .error (.tooDeep container)) ∧
    (∀ readDepth body, nesting body ≤ readDepth →
      ∀ container, Json.read readDepth body ≠ .error (.tooDeep container)) ∧
    (∀ readDepth count (rest : Text), readDepth < count →
      Json.read readDepth (List.replicate count ('[' : CodePoint) ++ rest) = .error (.tooDeep .array)) ∧
    ∀ shown, Integer.text? epochs = some shown →
      SettlesAny s.readDepth (put s payload epochs) (storeRequest s payload shown "/v1/store")
        (storeRequest s payload shown "/v1/blobs") := by
  refine ⟨fun _ _ => BlobId.parse_settled_iff, fun _ _ => not_deep_of_nesting, ?_, ?_⟩
  · intro readDepth count rest deep
    exact Json.read_brackets deep rest
  · intro shown written
    rw [put_eq payload written]
    exact firstSuccess_settlesAny _ _

/-- A reply whose body names a blob. -/
theorem storeVerdict_named_x {readDepth : Nat} (followed : 2 ≤ readDepth) (url : Text) :
    let response : Json := .object [("newlyCreated", .object [("blobId", .text "x")])]
    storeVerdict readDepth url ⟨200, Text.utf8 (response.write .compact), [], none⟩ = .ok (.ok "x") := by
  intro response
  have readable : Json.Readable false 2 response := .single nofun (.single nofun (.scalar nofun))
  have plain : response.texts.all (!·.hasSurrogate) = true := rfl
  have encodable (t : Text) (member : t ∈ response.texts) : t.hasSurrogate = false := by
    simpa using List.all_eq_true.mp plain t member
  have octets := Json.decodeLossy_write Json.compact_separates readable fun _ => encodable
  have parsed := BlobId.parse_of_read (Json.read_write Json.compact_separates (readable.deepen followed))
  exact storeVerdict_named (octets.symm ▸ parsed) (Reply.delivers_served _) url rfl

/-- A body that is no JSON at all, behind which the second path names the blob. -/
theorem parse_put_settle_broken :
    let s : Session := ⟨"http://p", 30, false, 982⟩
    let response : Json := .object [("newlyCreated", .object [("blobId", .text "x")])]
    let broken : Reply := ⟨200, [0xFF, 0x5B], [], none⟩
    let named : Reply := ⟨200, Text.utf8 (response.write .compact), [], none⟩
    let w : World := ⟨⟨[], []⟩, [], [], [broken, named], [], [], []⟩
    Shallow s.readDepth w.nextReply [0xFF, 0x5B] ∧
      (put s [7] 1).run w = (.ok "x", w.sent
        [storeRequest s [7] (.ofInt 1) "/v1/store", storeRequest s [7] (.ofInt 1) "/v1/blobs"]) := by
  intro s response broken named w
  have shallow : Shallow s.readDepth w.nextReply [0xFF, 0x5B] :=
    ⟨Reply.delivers_served _, not_deep_of_nesting (by decide)⟩
  have written := Integer.text?_of_small (i := 1) (k := 0) (by decide) (by decide)
  have parsed : BlobId.parse s.readDepth (Utf8.decodeLossy [0xFF, 0x5B]) = .error (.known BlobId.notJson) := rfl
  have unusable (name : Text) : BlobId.parse s.readDepth (Utf8.decodeLossy [0xFF, 0x5B]) ≠ .ok name := by
    rw [parsed]
    exact nofun
  refine ⟨shallow, ?_⟩
  have next := ((parse_put_settle s [7] 1).2.2.2 _ written).next w _ shallow unusable
  have behind : (w.sent [storeRequest s [7] (.ofInt 1) "/v1/store"]).nextReply = named := rfl
  rw [behind, storeVerdict_named_x (by decide)] at next
  exact next

/-- Brackets that nest too deep are no failure of their candidate: the fault leaves, and the second
candidate, which would name the blob, is not sent. A hundred thousand of them are too deep for a reader that
follows a thousand, and for one that follows ten thousand. -/
theorem deep_body_leaves :
    let s (readDepth : Nat) : Session := ⟨"http://p", 30, false, readDepth⟩
    let response : Json := .object [("newlyCreated", .object [("blobId", .text "x")])]
    let body : Text := List.replicate 100000 ('[' : CodePoint)
    let deep : Reply := ⟨200, body.utf8, [], none⟩
    let named : Reply := ⟨200, Text.utf8 (response.write .compact), [], none⟩
    let w : World := ⟨⟨[], []⟩, [], [], [deep, named], [], [], []⟩
    let Leaves (readDepth : Nat) : Prop :=
      BlobId.parse readDepth body = .error (BlobId.nestingFailure .array) ∧
      storeVerdict readDepth "http://p/v1/blobs" named = .ok (.ok "x") ∧
      (put (s readDepth) [7] 1).run w = (.error (BlobId.nestingFailure .array),
        w.sent [storeRequest (s readDepth) [7] (.ofInt 1) "/v1/store"])
    deep.Delivers body.utf8 ∧ Leaves 1000 ∧ Leaves 10000 := by
  intro s response body deep named w Leaves
  have delivers : deep.Delivers body.utf8 := Reply.delivers_served _
  have written := Integer.text?_of_small (i := 1) (k := 0) (by decide) (by decide)
  have leaves {readDepth : Nat} (followed : 2 ≤ readDepth) (small : readDepth < 100000) : Leaves readDepth := by
    have refused := Json.read_brackets small []
    rw [List.append_nil] at refused
    refine ⟨BlobId.parse_deep refused, storeVerdict_named_x followed _, ?_⟩
    exact put_of_brackets (s := s readDepth) written small delivers
  exact ⟨delivers, leaves (by decide) (by decide), leaves (by decide) (by decide)⟩

end Client
end BlobVault
