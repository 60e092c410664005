import BlobVault.Proofs.Text.ControlSequence
import BlobVault.World

/-! Laws of actions. A sequence of steps runs one after the other, and each single step changes only
what it is about: a line what was printed, a draw the draws, a request the replies. -/
namespace BlobVault

namespace World

def tell (w : World) (shown : Text) : World := { w with diagnostics := w.diagnostics ++ shown }

def printed (w : World) (shown : Text) : World := { w with output := w.output ++ shown }

/-- The world after requests have been sent, each of which took a reply. -/
def sent (w : World) (made : List Request) : World :=
  { w with replies := w.replies.drop made.length, requests := w.requests ++ made }

def drawn (w : World) (sizes : List Nat) : World :=
  { w with draws := w.draws.drop sizes.length, drawSizes := w.drawSizes ++ sizes }

def nextReply (w : World) : Reply := w.replies.headD .unreachable

@[simp] theorem tell_files (w : World) (shown : Text) : (w.tell shown).files = w.files := rfl

@[simp] theorem tell_draws (w : World) (shown : Text) : (w.tell shown).draws = w.draws := rfl

@[simp] theorem tell_replies (w : World) (shown : Text) : (w.tell shown).replies = w.replies := rfl

@[simp] theorem tell_requests (w : World) (shown : Text) : (w.tell shown).requests = w.requests := rfl

@[simp] theorem sent_files (w : World) (made : List Request) : (w.sent made).files = w.files := rfl

@[simp] theorem sent_requests (w : World) (made : List Request) :
    (w.sent made).requests = w.requests ++ made := rfl

@[simp] theorem drawn_files (w : World) (sizes : List Nat) : (w.drawn sizes).files = w.files := rfl

@[simp] theorem drawn_replies (w : World) (sizes : List Nat) :
    (w.drawn sizes).replies = w.replies := rfl

@[simp] theorem drawn_requests (w : World) (sizes : List Nat) :
    (w.drawn sizes).requests = w.requests := rfl

theorem nextReply_sent (w : World) (request : Request) :
    (w.sent [request]).nextReply = w.replies.tail.headD .unreachable := by
  simp [nextReply, sent]

theorem tell_tell (w : World) (a b : Text) : (w.tell a).tell b = w.tell (a ++ b) := by
  simp [tell]

theorem drawn_tell (w : World) (sizes : List Nat) (shown : Text) :
    (w.tell shown).drawn sizes = (w.drawn sizes).tell shown := rfl

theorem sent_nil (w : World) : w.sent [] = w := by
  simp [sent]

theorem drawn_drawn (w : World) (a b : List Nat) : (w.drawn a).drawn b = w.drawn (a ++ b) := by
  simp [drawn]

theorem nextDraw_drawn (w : World) (size : Nat) :
    (w.drawn [size]).draws.headD none = w.draws.tail.headD none := by
  simp [drawn]

theorem sent_sent (w : World) (a b : List Request) : (w.sent a).sent b = w.sent (a ++ b) := by
  simp [sent]

end World

theorem bind_eq_ok_iff {x : Except ε α} {next : α → Except ε β} {result : β} :
    x >>= next = .ok result ↔ ∃ value, x = .ok value ∧ next value = .ok result := by
  cases x <;> simp [bind, Except.bind]

/-- A relation that some result meets and that determines the result is met by the result alone. -/
theorem eq_iff_of_total {Ends : α → Prop} {result other : α} (total : ∃ x, Ends x)
    (determined : ∀ x, Ends x → result = x) : result = other ↔ Ends other := by
  refine ⟨?_, determined other⟩
  rintro rfl
  obtain ⟨x, ends⟩ := total
  rw [determined x ends]
  exact ends

namespace Action

theorem run_bind (a : Action α) (next : α → Action β) (w : World) :
    (a >>= next).run w =
      match a.run w with
      | (.ok x, w) => (next x).run w
      | (.error failure, w) => (.error failure, w) := by
  change (ExceptT.bindCont next (a.run w).1) (a.run w).2 = _
  cases h : a.run w with
  | mk result w => cases result <;> rfl

/-- A sequence returns what its rest returns on the value of its first part. -/
theorem bind_returns_iff {a : Action α} {next : α → Action β} {w : World} {y : β} :
    ((a >>= next).run w).1 = .ok y ↔
      ∃ x, (a.run w).1 = .ok x ∧ ((next x).run (a.run w).2).1 = .ok y := by
  rw [run_bind]
  cases a.run w with
  | mk result between => cases result <;> simp

@[simp] theorem run_pure (x : α) (w : World) : (pure x : Action α).run w = (.ok x, w) := rfl

@[simp] theorem run_get (w : World) : (get : Action World).run w = (.ok w, w) := rfl

@[simp] theorem run_set (next w : World) : (set next : Action PUnit).run w = (.ok ⟨⟩, next) := rfl

@[simp] theorem run_throw (failure : Failure) (w : World) :
    (throw failure : Action α).run w = (.error failure, w) := rfl

@[simp] theorem run_fail (e : VaultError) (w : World) :
    (fail e : Action α).run w = (.error (.known e), w) := rfl

@[simp] theorem run_ofExcept (result : Except Failure α) (w : World) :
    (ofExcept result).run w = (result, w) := by
  cases result <;> rfl

def line (message : Text) : Text :=
  ControlSequence.spellSurrogates (ControlSequence.remove message) ++ "\n"

/-- A line without an escape and without a surrogate is shown as it is. -/
theorem line_of_clear {message : Text} (clear : ControlSequence.escape ∉ message)
    (plain : message.hasSurrogate = false) : line message = message ++ "\n" := by
  rw [line, ControlSequence.remove_of_clear clear, ControlSequence.spellSurrogates_of_plain plain]

@[simp] theorem run_report (message : Text) (w : World) :
    (report message).run w = (.ok (), w.tell (line message)) := by
  simp only [World.tell, line, ← List.append_assoc]
  rfl

@[simp] theorem run_detail (v : Verbosity) (message : Text) (w : World) :
    (v.detail message).run w = (.ok (), w.tell (if v.verbose then line message else [])) := by
  unfold Verbosity.detail
  split
  · simp
  · simp [World.tell]

@[simp] theorem run_trace (v : Verbosity) (message : Text) (w : World) :
    (v.trace message).run w = (.ok (), w.tell (if v.debug then line message else [])) := by
  unfold Verbosity.trace
  split
  · simp
  · simp [World.tell]

theorem run_print (message : Text) (w : World) :
    (print message).run w = (.ok (), w.printed (ControlSequence.remove message ++ "\n")) := by
  simp only [World.printed, ← List.append_assoc]
  rfl

theorem run_send (request : Request) (w : World) :
    (send request).run w = (.ok w.nextReply, w.sent [request]) := by
  simp only [World.nextReply, World.sent, List.length_singleton, List.drop_one]
  rfl

@[simp] theorem run_attempt (a : Action α) (w : World) :
    (attempt a).run w = (.ok (a.run w).1, (a.run w).2) := rfl

theorem run_draw (size : Nat) (w : World) :
    (draw size).run w = (.ok (w.draws.headD none), w.drawn [size]) := by
  simp only [World.drawn, List.length_singleton, List.drop_one]
  rfl

def Returns (a : Action α) (w : World) (x : α) (left : World) : Prop := a.run w = (.ok x, left)

namespace Returns

theorem bind_iff {a : Action α} {next : α → Action β} {w left : World} {y : β} :
    Returns (a >>= next) w y left ↔
      ∃ x between, Returns a w x between ∧ Returns (next x) between y left := by
  unfold Returns
  rw [run_bind]
  constructor
  · intro h
    split at h
    · rename_i x between first
      exact ⟨x, between, first, h⟩
    · cases h
  · rintro ⟨x, between, first, rest⟩
    rw [first]
    exact rest

theorem of_run {a : Action α} {w between left : World} {result : Except Failure α} {x : α}
    (ran : a.run w = (result, between)) : Returns a w x left ↔ result = .ok x ∧ left = between := by
  unfold Returns
  rw [ran]
  constructor
  · intro same
    cases same
    exact ⟨rfl, rfl⟩
  · rintro ⟨rfl, rfl⟩
    rfl

theorem of_returned {a : Action α} {w : World} {x : α} (returned : (a.run w).1 = .ok x) :
    Returns a w x (a.run w).2 :=
  Prod.ext returned rfl

theorem pure_iff {x y : α} {w left : World} :
    Returns (pure x) w y left ↔ x = y ∧ left = w := by
  rw [of_run (run_pure x w), Except.ok.injEq]

theorem ofExcept_iff {result : Except Failure α} {w left : World} {x : α} :
    Returns (ofExcept result) w x left ↔ result = .ok x ∧ left = w :=
  of_run (run_ofExcept result w)

theorem report_iff {message : Text} {w left : World} {done : Unit} :
    Returns (report message) w done left ↔ left = w.tell (line message) := by
  simp [of_run (run_report message w)]

theorem detail_iff {v : Verbosity} {message : Text} {w left : World} {done : Unit} :
    Returns (v.detail message) w done left ↔
      left = w.tell (if v.verbose then line message else []) := by
  simp [of_run (run_detail v message w)]

end Returns

/-- An action leaves what a view shows of the world as it is, whether it returns or fails. -/
def Keeps (view : World → β) (a : Action α) : Prop := ∀ w, view (a.run w).2 = view w

namespace Keeps

variable {view : World → γ}

/-- Steps that keep a view can be left out at the end. -/
theorem view_bind {a : Action α} {next : α → Action β} (rest : ∀ x, Keeps view (next x)) (w : World) :
    view ((a >>= next).run w).2 = view (a.run w).2 := by
  rw [run_bind]
  split
  · rename_i x between ran
    rw [ran]
    exact rest x between
  · rename_i cause between ran
    rw [ran]

/-- A run of an action whose failure is handled shows what the action shows. -/
theorem view_attempt {a : Action α} {next : Except Failure α → Action β}
    (rest : ∀ result, Keeps view (next result)) (w : World) :
    view ((attempt a >>= next).run w).2 = view (a.run w).2 := by
  rw [view_bind rest, run_attempt]

theorem bind {a : Action α} {next : α → Action β} (first : Keeps view a)
    (rest : ∀ x, Keeps view (next x)) : Keeps view (a >>= next) :=
  fun w => (view_bind rest w).trans (first w)

theorem pure (x : α) : Keeps view (pure x : Action α) := fun _ => rfl

theorem throw (cause : Failure) : Keeps view (throw cause : Action α) := fun _ => rfl

theorem ofExcept (result : Except Failure α) : Keeps view (ofExcept result) := by
  intro w
  rw [run_ofExcept]

theorem forM {step : β → Action PUnit} (each : ∀ x, Keeps view (step x)) (items : List β) :
    Keeps view (items.forM step) := by
  induction items with
  | nil => exact fun _ => rfl
  | cons x rest ih => exact .bind (each x) fun _ => ih

theorem print (spoken : ∀ w shown, view (World.printed w shown) = view w) (message : Text) :
    Keeps view (print message) := by
  intro w
  rw [run_print]
  exact spoken _ _

theorem printJson (spoken : ∀ w shown, view (World.printed w shown) = view w) (members : Members) :
    Keeps view (printJson members) := by
  unfold Action.printJson
  dsimp only
  split
  · exact .print spoken _
  · exact .throw _

variable (quiet : ∀ w shown, view (World.tell w shown) = view w)
include quiet

theorem report (message : Text) : Keeps view (report message) := by
  intro w
  rw [run_report]
  exact quiet _ _

theorem detail (v : Verbosity) (message : Text) : Keeps view (v.detail message) := by
  intro w
  rw [run_detail]
  exact quiet _ _

theorem trace (v : Verbosity) (message : Text) : Keeps view (v.trace message) := by
  intro w
  rw [run_trace]
  exact quiet _ _

end Keeps

def FailsOnly (expected : Failure → Prop) (a : Action α) : Prop :=
  ∀ w cause, (a.run w).1 = .error cause → expected cause

namespace FailsOnly

variable {expected : Failure → Prop}

theorem bind {a : Action α} {next : α → Action β} (first : FailsOnly expected a)
    (rest : ∀ x, FailsOnly expected (next x)) : FailsOnly expected (a >>= next) := by
  intro w cause failed
  rw [run_bind] at failed
  split at failed
  · rename_i x between _
    exact rest x between cause failed
  · rename_i earlier between ran
    cases failed
    exact first w cause (by rw [ran])

theorem pure (x : α) : FailsOnly expected (pure x : Action α) := fun _ _ failed => nomatch failed

theorem throw {cause : Failure} (known : expected cause) : FailsOnly expected (throw cause : Action α) := by
  intro w other failed
  cases failed
  exact known

theorem ofExcept {result : Except Failure α} (known : ∀ cause, result = .error cause → expected cause) :
    FailsOnly expected (ofExcept result) := by
  intro w cause failed
  rw [run_ofExcept] at failed
  exact known cause failed

theorem report (message : Text) : FailsOnly expected (report message) := fun _ _ failed => nomatch failed

theorem detail (v : Verbosity) (message : Text) : FailsOnly expected (v.detail message) := by
  intro w cause failed
  rw [run_detail] at failed
  cases failed

theorem trace (v : Verbosity) (message : Text) : FailsOnly expected (v.trace message) := by
  intro w cause failed
  rw [run_trace] at failed
  cases failed

theorem get : FailsOnly expected (get : Action World) := fun _ _ failed => nomatch failed

theorem set (next : World) : FailsOnly expected (set next : Action PUnit) := fun _ _ failed => nomatch failed

theorem draw (size : Nat) : FailsOnly expected (draw size) := fun _ _ failed => nomatch failed

theorem send (request : Request) : FailsOnly expected (send request) := fun _ _ failed => nomatch failed

end FailsOnly
end Action

/-- A fault, or an error of one of some kinds. -/
def Failure.Among (kinds : List ErrorKind) (cause : Failure) : Prop := ∀ e, cause = .known e → e.kind ∈ kinds

namespace Failure

theorem among_fault {kinds : List ErrorKind} (f : Fault) : Among kinds (.fault f) := fun _ same => nomatch same

theorem among_known {kinds : List ErrorKind} {kind : ErrorKind} (listed : kind ∈ kinds) {message : Text} :
    Among kinds (.known ⟨kind, message⟩) := by
  intro other same
  cases same
  exact listed

theorem Among.specific {kinds : List ErrorKind} {cause : Failure} (among : Among kinds cause)
    (families : ∀ kind ∈ kinds, kind.family ≠ .general) {e : VaultError} (known : cause = .known e) :
    e.kind.family ≠ .general :=
  families _ (among e known)

end Failure

end BlobVault
