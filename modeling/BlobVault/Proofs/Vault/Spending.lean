import BlobVault.Proofs.Vault.Command
import BlobVault.Proofs.Vault.Retrieval
import BlobVault.Vault.Evidence

/-! What actions spend: the draws that they take and the bodies that they upload. Reading, reporting and the
audit commands spend nothing, and storing a blob uploads one body and draws nothing. -/
namespace BlobVault

open BlobVault.Action (Keeps)

namespace World

def uploads (w : World) : List Bytes := w.requests.filterMap Request.payload

/-- The draws that are left, the sizes of those that were taken, and the uploads. -/
def spent (w : World) : List Draw × List Nat × List Bytes := (w.draws, w.drawSizes, w.uploads)

theorem spent_tell (w : World) (shown : Text) : (w.tell shown).spent = w.spent := rfl

theorem spent_printed (w : World) (shown : Text) : (w.printed shown).spent = w.spent := rfl

theorem uploads_sent (w : World) (made : List Request) :
    (w.sent made).uploads = w.uploads ++ made.filterMap Request.payload := List.filterMap_append

theorem spent_sent (w : World) (made : List Request) (reads : ∀ request ∈ made, request.payload = none) :
    (w.sent made).spent = w.spent := by
  have nothing : made.filterMap Request.payload = [] := List.filterMap_eq_nil_iff.mpr reads
  have same : (w.sent made).uploads = w.uploads := by rw [uploads_sent, nothing, List.append_nil]
  exact congrArg (fun uploads => (w.draws, w.drawSizes, uploads)) same

end World

/-- An action draws nothing, and everything that it uploads is one body. -/
def Action.Sends (body : Bytes) (a : Action α) : Prop :=
  ∀ w, ∃ n, (a.run w).2.spent = (w.draws, w.drawSizes, w.uploads ++ List.replicate n body)

namespace Action.Sends

variable {body : Bytes}

theorem of_keeps {a : Action α} (kept : Keeps World.spent a) : Sends body a := by
  intro w
  refine ⟨0, (kept w).trans ?_⟩
  rw [List.replicate_zero, List.append_nil]
  rfl

theorem bind {a : Action α} {next : α → Action β} (first : Sends body a) (rest : ∀ x, Sends body (next x)) :
    Sends body (a >>= next) := by
  intro w
  obtain ⟨n, here⟩ := first w
  rw [run_bind]
  split
  · rename_i x between ran
    rw [ran] at here
    obtain ⟨m, there⟩ := rest x between
    simp only [World.spent, Prod.mk.injEq] at here there ⊢
    obtain ⟨draws, sizes, uploads⟩ := here
    refine ⟨n + m, there.1.trans draws, there.2.1.trans sizes, there.2.2.trans ?_⟩
    rw [uploads, List.append_assoc, List.replicate_append_replicate]
  · rename_i cause between ran
    rw [ran] at here
    exact ⟨n, here⟩

end Action.Sends

namespace Client

theorem payloads_of_carried {made : List Request} {payload : Bytes}
    (carried : ∀ request ∈ made, request.payload = some payload) :
    made.filterMap Request.payload = List.replicate made.length payload := by
  induction made with
  | nil => rfl
  | cons request rest ih =>
    obtain ⟨first, later⟩ := List.forall_mem_cons.mp carried
    rw [List.filterMap_cons_some first, ih later]
    rfl

theorem get_spends (s : Session) (name : Text) : Keeps World.spent (get s name) :=
  get_keeps World.spent_sent s name

/-- However many candidates are tried, all of them carry the payload. -/
theorem put_sends (s : Session) (payload : Bytes) (epochs : Int) :
    Action.Sends payload (put s payload epochs) := by
  cases written : Integer.text? epochs with
  | none =>
    rw [put_of_tooLong written]
    exact .of_keeps (.throw _)
  | some shown =>
    intro w
    obtain ⟨made, ending, -, ran, carried⟩ := put_run written s payload w
    refine ⟨made.length, ?_⟩
    rw [ran, World.spent, World.uploads_sent, payloads_of_carried carried]
    rfl

end Client

namespace Retrieve

theorem run_spends (o : RetrieveOptions) (s : Session) : Keeps World.spent (run o s) := by
  unfold run runUnder
  refine .bind (content_keeps World.spent_tell World.spent_sent none o s) fun plaintext => ?_
  exact save_keeps World.spent_tell (fun _ _ => rfl) o plaintext

theorem command_spends (environment : Environment) (t : TransportOptions) (o : RetrieveOptions) :
    Keeps World.spent (command environment t o) := by
  rw [command_eq]
  exact Report.guarded_keeps World.spent_tell (finish_keeps World.spent_tell o) (run_spends o)

end Retrieve

namespace Evidence

theorem orReport_spends (result : Except Failure α) {next : α → Action Int}
    (later : ∀ x, Keeps World.spent (next x)) : Keeps World.spent (orReport result next) := by
  unfold orReport
  split
  · exact later _
  · exact Report.error_keeps World.spent_tell _
  · exact .throw _

theorem hash_spends (v : Verbosity) (i : AuditInput) : Keeps World.spent (hash v i) := by
  apply orReport_spends
  intro hash
  refine .bind (.trace World.spent_tell _ _) fun _ => ?_
  refine .bind (.printJson World.spent_printed _) fun _ => ?_
  exact .pure 0

theorem sign_spends (v : Verbosity) (o : SignOptions) : Keeps World.spent (sign v o) := by
  unfold sign
  split
  · refine .bind (.report World.spent_tell _) fun _ => ?_
    exact .pure _
  · apply orReport_spends
    intro signed
    refine .bind (.detail World.spent_tell _ _) fun _ => ?_
    refine .bind (.printJson World.spent_printed _) fun _ => ?_
    exact .pure 0

theorem verify_spends (o : VerifyOptions) : Keeps World.spent (verify o) := by
  apply orReport_spends
  intro valid
  refine .bind (.printJson World.spent_printed _) fun _ => ?_
  split
  · exact .pure _
  · refine .bind (.report World.spent_tell _) fun _ => ?_
    exact .pure _

end Evidence
end BlobVault
