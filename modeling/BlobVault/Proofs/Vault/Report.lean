import BlobVault.Proofs.Action
import BlobVault.Vault.Report

/-! How commands end. A body that returns is passed on unchanged, and reporting a failure only adds lines
to the diagnostic stream. -/
namespace BlobVault.Report

open BlobVault.Action (Returns Keeps)

theorem guard_returns {onCancel : List Text} {body : Action α} {w left : World} {x : α}
    (returned : Returns body w x left) : Returns (guard onCancel body) w (.ok x) left := by
  have ran : body.run w = (.ok x, left) := returned
  unfold Returns
  rw [guard, Action.run_bind, Action.run_attempt, ran]
  rfl

/-- What becomes of a failure under a guard: the exit code of the command, or the failure that goes on. -/
def disposal : Failure → Except Failure Int
  | .known e => .ok e.kind.family.exitCode
  | .fault f => if f.kind = .cancelled then .ok interruptedCode else .error (.fault f)

def notice (onCancel : List Text) : Failure → Text
  | .known e => Action.line (e.kind.family.heading ++ ": " ++ e.message)
  | .fault f =>
    match f.kind with
    | .cancelled => onCancel.flatMap Action.line
    | .interrupted => []
    | _ => bannerLines.flatMap Action.line

theorem run_lines (lines : List Text) (w : World) :
    (lines.forM Action.report).run w = (.ok (), w.tell (lines.flatMap Action.line)) := by
  induction lines generalizing w with
  | nil => simp [World.tell]
  | cons line rest ih =>
    change (Action.report line >>= fun _ => rest.forM Action.report).run w = _
    rw [Action.run_bind, Action.run_report]
    dsimp only
    rw [ih, World.tell_tell, List.flatMap_cons]

theorem run_error (e : VaultError) (w : World) :
    (error e).run w =
      (.ok e.kind.family.exitCode, w.tell (Action.line (e.kind.family.heading ++ ": " ++ e.message))) := by
  rw [error, Action.run_bind, Action.run_report]
  rfl

/-- A guard disposes of every failure of its body and shows its notice. -/
theorem guard_fails {onCancel : List Text} {body : Action α} {w left : World} {cause : Failure}
    (failed : body.run w = (.error cause, left)) :
    (guard onCancel body).run w = ((disposal cause).map .error, left.tell (notice onCancel cause)) := by
  have quiet (w : World) : w.tell [] = w := by simp [World.tell]
  rw [guard, Action.run_bind, Action.run_attempt, failed]
  cases cause with
  | known e =>
    simp only [Action.run_bind, run_error]
    rfl
  | fault f =>
    obtain ⟨kind, details⟩ := f
    cases kind with
    | cancelled =>
      simp only [Action.run_bind, run_lines]
      rfl
    | interrupted =>
      simp only [disposal, notice, quiet]
      rfl
    | transport _ | crash _ =>
      simp only [Action.run_bind, banner, run_lines]
      rfl

section Keeps

variable {view : World → γ} (quiet : ∀ w shown, view (World.tell w shown) = view w)
include quiet

theorem error_keeps (e : VaultError) : Keeps view (error e) :=
  .bind (.report quiet _) fun _ => .pure _

theorem banner_keeps : Keeps view banner := .forM (fun line => .report quiet line) bannerLines

end Keeps

theorem exitCode_ne_zero (family : ErrorFamily) : family.exitCode ≠ 0 := by
  cases family <;> decide

theorem error_ne_zero {e : VaultError} {w left : World} : ¬ Returns (error e) w 0 left := by
  intro ended
  obtain ⟨_, _, _, code⟩ := Returns.bind_iff.mp ended
  exact exitCode_ne_zero _ (Returns.pure_iff.mp code).1

end BlobVault.Report
