import BlobVault.Proofs.Vault.Spending
import BlobVault.Proofs.Vault.Storing

/-! Key material is drawn afresh for every encryption. An action that encrypts takes the next two draws and
no others, whatever becomes of it, and uploads nothing but what is encrypted under them; one that fails before
takes none. -/
namespace BlobVault

open BlobVault.Action (Keeps Returns Sends)

/-- A run that encrypts a plaintext: it takes the next two draws, a key and then a nonce, and everything that
it uploads is what encrypting the plaintext under these two gives. -/
structure Seals (plaintext : Bytes) (before after : World) : Prop where
  draws : after.draws = before.draws.drop 2
  sizes : after.drawSizes = before.drawSizes ++ [keySize, nonceSize]
  uploads : after.uploads = before.uploads ∨ ∃ m ciphertext n,
    before.draws.take 2 = [some m.key, some m.nonce] ∧ Envelope.Produces m plaintext ciphertext ∧
      after.uploads = before.uploads ++ List.replicate n ciphertext

namespace Seals

variable {plaintext : Bytes} {before after other : World}

theorem congr_left (sealed : Seals plaintext before after) (same : other.spent = before.spent) :
    Seals plaintext other after := by
  simp only [World.spent, Prod.mk.injEq] at same
  obtain ⟨draws, sizes, uploads⟩ := same
  constructor
  case draws => rw [draws, sealed.draws]
  case sizes => rw [sizes, sealed.sizes]
  case uploads =>
    rw [uploads, draws]
    exact sealed.uploads

theorem congr_right (sealed : Seals plaintext before after) (same : other.spent = after.spent) :
    Seals plaintext before other := by
  simp only [World.spent, Prod.mk.injEq] at same
  obtain ⟨draws, sizes, uploads⟩ := same
  constructor
  case draws => rw [draws, sealed.draws]
  case sizes => rw [sizes, sealed.sizes]
  case uploads =>
    rw [uploads]
    exact sealed.uploads

theorem alike (sealed : Seals plaintext before after) :
    ∃ body n, after.uploads = before.uploads ++ List.replicate n body := by
  rcases sealed.uploads with none | ⟨_, ciphertext, n, -, -, uploads⟩
  · exact ⟨[], 0, by rw [none, List.replicate_zero, List.append_nil]⟩
  · exact ⟨ciphertext, n, uploads⟩

theorem bind_of_run {a : Action α} {next : α → Action β} {w between : World} {x : α}
    (ran : a.run w = (.ok x, between)) (same : between.spent = w.spent)
    (later : Seals plaintext between ((next x).run between).2) :
    Seals plaintext w ((a >>= next).run w).2 := by
  rw [Action.run_bind, ran]
  exact later.congr_left same.symm

theorem of_drawn (plaintext : Bytes) (w : World) : Seals plaintext w (w.drawn [keySize, nonceSize]) :=
  ⟨rfl, rfl, .inl rfl⟩

/-- Encrypting and then sending the ciphertext takes two draws, also when these are no key material. -/
theorem bind_encrypt {fault : Option CipherFault} {next : Bytes × KeyMaterial → Action β}
    (sends : ∀ ciphertext m, Sends ciphertext (next (ciphertext, m))) (w : World) :
    Seals plaintext w ((Envelope.encrypt fault plaintext >>= next).run w).2 := by
  rw [Action.run_bind, Envelope.encrypt_run]
  -- Both draws are taken before either is checked, so all three ways to end leave the same source.
  cases drawn : KeyMaterial.ofDraws? (w.draws.headD none) (w.draws.tail.headD none) with
  | none => exact of_drawn plaintext w
  | some m =>
    dsimp only
    cases sealed : Envelope.encryptWith fault m plaintext with
    | error cause => exact of_drawn plaintext w
    | ok ciphertext =>
      obtain ⟨n, spent⟩ := sends ciphertext m (w.drawn [keySize, nonceSize])
      simp only [World.spent, Prod.mk.injEq] at spent
      obtain ⟨draws, sizes, uploads⟩ := spent
      have produced := Envelope.produces_iff.mpr (Envelope.encryptWith_faultless sealed)
      have material := KeyMaterial.ofDraws?_next_iff.mp drawn
      exact ⟨draws, sizes, .inr ⟨m, ciphertext, n, material, produced, uploads⟩⟩

end Seals

namespace Store

def plaintext? (file : FilePath) (fs : FileSystem) : Option Bytes :=
  if file.namingFault?.isSome || file.holdsNul then none
  else (fs.read? file).filter fun content => !content.isEmpty

theorem readPlaintext_iff {file : FilePath} {w : World} {plaintext : Bytes} :
    Returns (readPlaintext file) w plaintext w ↔ plaintext? file w.files = some plaintext := by
  rw [readPlaintext_returns_iff, regularFile?_returns_iff]
  unfold plaintext?
  split
  · rename_i unusable
    rw [Bool.or_eq_true] at unusable
    grind
  · rename_i usable
    simp only [Bool.or_eq_true, not_or, Bool.not_eq_true] at usable
    simp [usable, Option.filter_eq_some_iff, and_comm]

theorem regularFile?_keeps (file : FilePath) : Keeps id (regularFile? file) := by
  intro w
  rw [regularFile?_run]

theorem readPlaintext_keeps (file : FilePath) : Keeps id (readPlaintext file) := by
  refine .bind (regularFile?_keeps file) fun content => ?_
  split
  · exact .throw _
  · exact .throw _
  · exact .pure _

theorem readPlaintext_of_none {file : FilePath} {w : World} (none : plaintext? file w.files = none) :
    ∃ cause, (readPlaintext file).run w = (.error cause, w) := by
  have kept : ((readPlaintext file).run w).2 = w := readPlaintext_keeps file w
  cases result : ((readPlaintext file).run w).1 with
  | error cause => exact ⟨cause, Prod.ext result kept⟩
  | ok plaintext =>
    have found := readPlaintext_iff.mp (Prod.ext result kept)
    rw [none] at found
    cases found

theorem traceEpochs_keeps {view : World → γ} (quiet : ∀ w shown, view (World.tell w shown) = view w)
    (o : StoreOptions) : Keeps view (traceEpochs o) := by
  unfold traceEpochs
  split
  · exact .bind (.ofExcept _) fun line => .report quiet line
  · exact .pure _

theorem receipt_keeps {view : World → γ} (quiet : ∀ w shown, view (World.tell w shown) = view w) (p : Parcel)
    (id : Text) : Keeps view (receipt p id) := by
  unfold receipt
  refine .bind (.report quiet _) fun _ => ?_
  refine .bind (.report quiet _) fun _ => ?_
  refine .bind (.ofExcept _) fun key => ?_
  exact .pure _

/-- A file that fails to be read is not encrypted. -/
theorem run_of_none {o : StoreOptions} {w : World} (none : plaintext? o.file w.files = none) (s : Session) :
    ((run o s).run w).2.spent = w.spent := by
  obtain ⟨cause, failed⟩ := readPlaintext_of_none
    (w := w.tell (Action.line ("[1/5] Reading file: " ++ o.file.text))) none
  simp only [run, prepare, bind_assoc]
  rw [Action.run_bind, Action.run_report]
  dsimp only
  rw [Action.run_bind, failed]
  rfl

theorem run_seals {o : StoreOptions} {w : World} {plaintext : Bytes}
    (found : plaintext? o.file w.files = some plaintext) (s : Session) :
    Seals plaintext w ((run o s).run w).2 := by
  have quiet := World.spent_tell
  simp only [run, prepare, bind_assoc, pure_bind]
  refine .bind_of_run (Action.run_report _ _) rfl ?_
  refine .bind_of_run (readPlaintext_iff.mpr found) rfl ?_
  refine .bind_of_run (Action.run_report _ _) rfl ?_
  refine .bind_of_run (Action.run_report _ _) rfl ?_
  refine .bind_of_run (Action.run_report _ _) rfl ?_
  refine .bind_of_run (Action.run_report _ _) rfl ?_
  -- From here on nothing draws, and the only requests are those of one upload.
  refine .bind_encrypt (fun ciphertext m => ?_) _
  refine .bind (.of_keeps (.report quiet _)) fun _ => ?_
  refine .bind (.of_keeps (.report quiet _)) fun _ => ?_
  refine .bind (.of_keeps (.detail quiet _ _)) fun _ => ?_
  refine .bind (.of_keeps (traceEpochs_keeps quiet o)) fun _ => ?_
  refine .bind (Client.put_sends s ciphertext o.epochs) fun id => ?_
  exact .of_keeps (receipt_keeps quiet _ id)

/-- The command spends what its run spends. -/
theorem command_spends {environment : Environment} {t : TransportOptions} {s : Session}
    (session : Session.open environment t = .ok s) (o : StoreOptions) (w : World) :
    ((command environment t o).run w).2.spent = ((run o s).run w).2.spent := by
  rw [command]
  exact Report.view_guarded World.spent_tell (finish_keeps World.spent_tell World.spent_printed) session w

theorem command_of_closed {environment : Environment} {t : TransportOptions} {e : VaultError}
    (closed : Session.open environment t = .error e) (o : StoreOptions) :
    Keeps World.spent (command environment t o) := by
  rw [command]
  exact Report.guarded_keeps_of_closed World.spent_tell closed

end Store
end BlobVault
