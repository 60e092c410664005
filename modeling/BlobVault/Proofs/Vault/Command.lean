import BlobVault.Proofs.Vault.Report
import BlobVault.Vault.Retrieve

/-! The commands of storing and retrieving have one shape: an operation in a session runs under a guard, and its
value is what the rest of the command is about. -/
namespace BlobVault

open BlobVault.Action (Returns Keeps)

namespace Report

variable {session : Except VaultError Session} {onCancel : List Text} {operation : Session → Action α}
  {finish : α → Action Int} {s : Session}

theorem guarded_of_closed {e : VaultError} (closed : session = .error e) (w : World) :
    (guarded session onCancel operation finish).run w =
      (.ok inputCode, w.tell (Action.line noPublisherLine)) := by
  subst closed
  rw [guarded, Action.run_bind, Action.run_report]
  rfl

/-- An operation that fails ends the command. -/
theorem guarded_of_failed (opened : session = .ok s) {w left : World} {cause : Failure}
    (failed : (operation s).run w = (.error cause, left)) :
    (guarded session onCancel operation finish).run w =
      (disposal cause, left.tell (notice onCancel cause)) := by
  subst opened
  rw [guarded, Action.run_bind, guard_fails failed]
  cases disposal cause <;> rfl

/-- A command whose operation returns is what it finishes with. -/
theorem guarded_of_returned (opened : session = .ok s) {w left : World} {value : α}
    (returned : Returns (operation s) w value left) :
    (guarded session onCancel operation finish).run w = (finish value).run left := by
  have passed : (guard onCancel (operation s)).run w = (.ok (.ok value), left) := guard_returns returned
  subst opened
  rw [guarded, Action.run_bind, passed]

/-- Operations that run alike make commands that run alike. -/
theorem guarded_congr {other : Session → Action α} {w : World}
    (same : ∀ s, session = .ok s → (operation s).run w = (other s).run w) :
    (guarded session onCancel operation finish).run w = (guarded session onCancel other finish).run w := by
  cases session with
  | error e => rfl
  | ok s =>
    have alike := same s rfl
    rcases ran : (operation s).run w with ⟨cause | value, left⟩
    · rw [guarded_of_failed rfl ran, guarded_of_failed rfl (alike.symm.trans ran)]
    · rw [guarded_of_returned rfl ran, guarded_of_returned rfl (alike.symm.trans ran)]

section Keeps

variable {view : World → γ} (quiet : ∀ w shown, view (World.tell w shown) = view w)
  (kept : ∀ value, Keeps view (finish value))
include quiet

theorem guarded_keeps_of_closed {e : VaultError} (closed : session = .error e) :
    Keeps view (guarded session onCancel operation finish) := by
  intro w
  rw [guarded_of_closed closed]
  exact quiet w _

include kept

/-- A command adds nothing to its operation that a view shows. -/
theorem view_guarded (opened : session = .ok s) (w : World) :
    view ((guarded session onCancel operation finish).run w).2 = view ((operation s).run w).2 := by
  rcases ran : (operation s).run w with ⟨cause | value, left⟩
  · rw [guarded_of_failed opened ran]
    exact quiet left _
  · rw [guarded_of_returned opened ran]
    exact kept value left

theorem guarded_keeps (keeps : ∀ s, Keeps view (operation s)) :
    Keeps view (guarded session onCancel operation finish) := by
  intro w
  cases opened : session with
  | error e => exact guarded_keeps_of_closed quiet rfl w
  | ok s => exact (view_guarded quiet kept rfl w).trans (keeps s w)

end Keeps
end Report

section Commands

variable {view : World → γ} (quiet : ∀ w shown, view (World.tell w shown) = view w)

theorem Retrieve.command_eq (environment : Environment) (t : TransportOptions) (o : RetrieveOptions) :
    command environment t o =
      Report.guarded (Session.open environment t) [Report.interrupted] (run o) (finish o) := rfl

include quiet

theorem Store.finish_keeps (spoken : ∀ w shown, view (World.printed w shown) = view w) (r : Receipt) :
    Keeps view (finish r) := by
  unfold finish
  refine .bind (.printJson spoken _) fun _ => ?_
  refine .bind (.report quiet _) fun _ => ?_
  refine .bind (.report quiet _) fun _ => ?_
  refine .bind (.report quiet _) fun _ => ?_
  exact .pure 0

theorem Retrieve.finish_keeps (o : RetrieveOptions) (code : Int) : Keeps view (finish o code) := by
  unfold finish
  refine .bind (.report quiet _) fun _ => ?_
  refine .bind (.report quiet _) fun _ => ?_
  exact .pure code

end Commands
end BlobVault
