import BlobVault.Proofs.Storage.Fallback
import BlobVault.Proofs.Text.Decimal

/-! Error statuses. A reply with such a status fails just its candidate as long as the text of the error is
read or the transport breaks down over it. A fault of another kind while the text is read leaves the
operation, and the candidates behind it are not sent. -/
namespace BlobVault

namespace Reply

structure Refusal (r : Reply) : Prop where
  arrives : ∀ fault, r.fault ≠ some (.sending, fault)
  status : r.status < 200 ∨ 300 ≤ r.status

/-- The text of an error is read, or it is the transport that breaks down over it. -/
def Legible (r : Reply) : Prop :=
  ∀ fault, r.fault = some (.errorText, fault) → ∃ t, fault.kind = .transport t

namespace Refusal

variable {r : Reply} (refusal : r.Refusal)
include refusal

theorem isSuccess : r.isSuccess = false := by
  have status := refusal.status
  simp only [Reply.isSuccess, Bool.and_eq_false_iff, decide_eq_false_iff_not]
  omega

/-- Only reading the text of the error can break down. -/
theorem strikes_iff {fault : Fault} : r.Strikes fault ↔ r.fault = some (.errorText, fault) := by
  constructor
  · intro strikes
    cases strikes with
    | sending broken => exact absurd broken (refusal.arrives fault)
    | body served _ =>
      rw [refusal.isSuccess] at served
      contradiction
    | errorText _ broken => exact broken
  · exact fun broken => .errorText refusal.isSuccess broken

theorem fails_iff : r.Fails ↔ r.Legible := by
  constructor
  · rintro (⟨t, details, strikes⟩ | ⟨text, refuses⟩) fault broken
    · rw [refusal.strikes_iff.mp strikes] at broken
      cases broken
      exact ⟨t, rfl⟩
    · exact absurd (refusal.strikes_iff.mpr broken) (refuses.unharmed fault)
  · intro legible
    by_cases harmed : ∃ fault, r.Strikes fault
    · obtain ⟨⟨kind, details⟩, strikes⟩ := harmed
      obtain ⟨t, rfl⟩ := legible _ (refusal.strikes_iff.mp strikes)
      exact .inl ⟨t, details, strikes⟩
    · exact .inr ⟨r.text, not_exists.mp harmed, refusal.isSuccess, rfl⟩

end Refusal
end Reply

namespace Client

def settle (report : Text → VaultError) : Verdict α → Except Failure α
  | .ok (.ok value) => .ok value
  | .ok (.error detail) => .error (.known (report detail))
  | .error cause => .error cause

/-- A judge fails the candidates that fail whatever operation they are of, and passes on the same faults. -/
structure Strict (judge : Text → Reply → Verdict α) : Prop where
  fails : ∀ {url r detail}, verdict url r = .ok (.error detail) → judge url r = .ok (.error detail)
  leaves : ∀ {url r cause}, verdict url r = .error cause → judge url r = .error cause

theorem strict_verdict : Strict verdict := ⟨id, id⟩

theorem strict_storeVerdict (readDepth : Nat) : Strict (storeVerdict readDepth) where
  fails judged := by rw [storeVerdict, judged]
  leaves judged := by rw [storeVerdict, judged]

/-- When the first of two candidates fails, the second one settles the operation. -/
theorem firstSuccess_of_failed {judge : Text → Reply → Verdict α} {report : Text → VaultError}
    {first second : Request} {w : World} {detail : Text}
    (failed : judge first.url w.nextReply = .ok (.error detail)) :
    (firstSuccess judge report [first, second] []).run w =
      (settle report (judge second.url (w.sent [first]).nextReply), w.sent [first, second]) := by
  rw [World.nextReply_sent]
  match judged : judge second.url (w.replies.tail.headD .unreachable) with
  | .ok (.ok value) => exact firstSuccess_run (.failed failed (.value judged))
  | .ok (.error last) => exact firstSuccess_run (.failed failed (.failed judged .exhausted))
  | .error cause => exact firstSuccess_run (.failed failed (.left judged))

/-- An error status fails just its candidate: the second one settles the operation then, or the operation
ends with an error of the transport. This holds as long as its text is legible; every other fault that
strikes while the text is read leaves the operation at once. -/
structure PassesOver (judge : Text → Reply → Verdict α) (report : Text → VaultError) (operation : Action α)
    (first second : Request) : Prop where
  next : ∀ w, w.nextReply.Refusal → w.nextReply.Legible →
    operation.run w =
      (settle report (judge second.url (w.sent [first]).nextReply), w.sent [first, second])
  last : ∀ w, (∃ detail, judge first.url w.nextReply = .ok (.error detail)) →
    (w.sent [first]).nextReply.Refusal → (w.sent [first]).nextReply.Legible →
    ∃ e, e.kind = .transport ∧ operation.run w = (.error (.known e), w.sent [first, second])
  leaves : ∀ w fault, w.nextReply.Refusal → w.nextReply.fault = some (.errorText, fault) →
    (∀ t, fault.kind ≠ .transport t) → operation.run w = (.error (.fault fault), w.sent [first])
  leaves_last : ∀ w fault, (∃ detail, judge first.url w.nextReply = .ok (.error detail)) →
    (w.sent [first]).nextReply.Refusal → (w.sent [first]).nextReply.fault = some (.errorText, fault) →
    (∀ t, fault.kind ≠ .transport t) → operation.run w = (.error (.fault fault), w.sent [first, second])

section Strict

variable {judge : Text → Reply → Verdict α} (strict : Strict judge) {r : Reply}
include strict

theorem Strict.fails_of_legible (refusal : r.Refusal) (legible : r.Legible) (url : Text) :
    ∃ detail, judge url r = .ok (.error detail) := by
  obtain ⟨detail, judged⟩ := verdict_failed_iff.mpr (refusal.fails_iff.mpr legible)
  exact ⟨detail, strict.fails judged⟩

theorem Strict.leaves_of_struck {fault : Fault} (strikes : r.Strikes fault)
    (foreign : ∀ t, fault.kind ≠ .transport t) (url : Text) : judge url r = .error (.fault fault) := by
  apply strict.leaves
  rw [verdict, Reply.strikes_iff.mp strikes]
  dsimp only
  split
  · rename_i t kind
    exact absurd kind (foreign t)
  · rfl

theorem firstSuccess_passesOver {report : Text → VaultError}
    (reported : ∀ detail, (report detail).kind = .transport) (first second : Request) :
    PassesOver judge report (firstSuccess judge report [first, second] []) first second where
  next w refusal legible := by
    obtain ⟨detail, failed⟩ := strict.fails_of_legible refusal legible first.url
    exact firstSuccess_of_failed failed
  last w failed refusal legible := by
    obtain ⟨detail, failed⟩ := failed
    obtain ⟨last, exhausted⟩ := strict.fails_of_legible refusal legible second.url
    refine ⟨report last, reported last, ?_⟩
    rw [firstSuccess_of_failed failed, exhausted]
    rfl
  leaves w fault refusal broken foreign :=
    firstSuccess_run (.left (strict.leaves_of_struck (refusal.strikes_iff.mpr broken) foreign first.url))
  leaves_last w fault failed refusal broken foreign := by
    obtain ⟨detail, failed⟩ := failed
    have left := strict.leaves_of_struck (refusal.strikes_iff.mpr broken) foreign second.url
    rw [firstSuccess_of_failed failed, left]
    rfl

end Strict

/-- Storing and reading a blob pass over an error status whose text is legible. -/
theorem put_get_passOver (s : Session) :
    (∀ payload epochs shown, Integer.text? epochs = some shown →
      PassesOver (storeVerdict s.readDepth) uploadFailed (put s payload epochs)
        (storeRequest s payload shown "/v1/store") (storeRequest s payload shown "/v1/blobs")) ∧
    ∀ name, PassesOver verdict (downloadFailed name) (get s name)
      (readRequest s ("/v1/" ++ name)) (readRequest s ("/v1/blobs/" ++ name)) := by
  constructor
  · intro payload epochs shown written
    rw [put_eq payload written]
    exact firstSuccess_passesOver (strict_storeVerdict s.readDepth) (fun _ => rfl) _ _
  · intro name
    rw [get_eq]
    exact firstSuccess_passesOver strict_verdict (fun _ => rfl) _ _

/-- A time-out over the text of an error status, behind which a blob is read; and an upload that both
publishers' paths refuse. -/
theorem put_get_passOver_refused :
    let s : Session := ⟨"http://p", 30, false, 0⟩
    let late : Reply := ⟨500, [], [], some (.errorText, ⟨.transport .timeout, []⟩)⟩
    let busy : Reply := ⟨503, [], "busy", none⟩
    let w (replies : List Reply) : World := ⟨⟨[], []⟩, [], [], replies, [], [], []⟩
    late.Refusal ∧ late.Legible ∧ busy.Refusal ∧ busy.Legible ∧
    (get s "x").run (w [late, ⟨200, [7], [], none⟩]) =
      (.ok [7], (w [late, ⟨200, [7], [], none⟩]).sent
        [readRequest s "/v1/x", readRequest s "/v1/blobs/x"]) ∧
    ∃ e, e.kind = .transport ∧ ((put s [7] 1).run (w [late, busy])).1 = .error (.known e) := by
  intro s late busy w
  have lateRefusal : late.Refusal := ⟨nofun, .inr (by decide)⟩
  have lateLegible : late.Legible := by
    intro fault broken
    cases broken
    exact ⟨.timeout, rfl⟩
  have busyRefusal : busy.Refusal := ⟨nofun, .inr (by decide)⟩
  have busyLegible : busy.Legible := nofun
  have written := Integer.text?_of_small (i := 1) (k := 0) (by decide) (by decide)
  obtain ⟨stores, reads⟩ := put_get_passOver s
  refine ⟨lateRefusal, lateLegible, busyRefusal, busyLegible, ?_, ?_⟩
  · exact (reads "x").next _ lateRefusal lateLegible
  · have failed : ∃ detail, storeVerdict 0 "http://p/v1/store" late = .ok (.error detail) := ⟨_, rfl⟩
    obtain ⟨e, kind, ran⟩ := (stores [7] 1 _ written).last (w [late, busy]) failed busyRefusal busyLegible
    exact ⟨e, kind, by rw [ran]⟩

/-- An error page that cannot be decoded is no failure of its candidate: the fault leaves, and the second
candidate, which would deliver the blob, is not sent. -/
theorem garbled_errorText_leaves :
    let s : Session := ⟨"http://p", 30, false, 0⟩
    let garbled : Fault := ⟨.crash .value, ["bad page"]⟩
    let first : Reply := ⟨500, [], [], some (.errorText, garbled)⟩
    let second : Reply := ⟨200, [7], [], none⟩
    let w : World := ⟨⟨[], []⟩, [], [], [first, second], [], [], []⟩
    first.Refusal ∧ second.Delivers [7] ∧
      (get s "x").run w = (.error (.fault garbled), w.sent [readRequest s "/v1/x"]) := by
  intro s garbled first second w
  exact ⟨⟨nofun, .inr (by decide)⟩, Reply.delivers_iff.mpr rfl, rfl⟩

end Client
end BlobVault
