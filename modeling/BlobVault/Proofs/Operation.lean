import BlobVault.Operation
import BlobVault.Proofs.CommandLine.Program
import BlobVault.Proofs.Vault.Freshness

/-! What the operations of the vault draw and upload. Four of them can encrypt, and the command line only by
the command that stores a file. -/
namespace BlobVault

open BlobVault.Action (Keeps Returns Sends)

namespace CommandLine

theorem view_untilInterrupted {view : World → γ} (command : Action Int) (w : World) :
    view ((untilInterrupted command).run w).2 = view (command.run w).2 := by
  refine Keeps.view_attempt (fun result => ?_) w
  split
  · exact .pure _
  · split
    · exact .pure _
    · exact .throw _
  · exact .throw _

def Settings.store (defaults : Defaults) (s : Settings) : StoreOptions :=
  ⟨.ofText (s.text "--file"), s.integer "--epochs" defaults.storageEpochs, s.verbosity⟩

/-- A path that is no regular file ends the command before it stores anything. -/
theorem encryptAndStore_spends (environment : Environment) (settings : Settings) (w : World) :
    ((Command.encryptAndStore.run environment settings).run w).2.spent =
        ((Store.command environment settings.transport (settings.store environment.defaults)).run w).2.spent ∨
      Store.plaintext? (settings.store environment.defaults).file w.files = none ∧
        ((Command.encryptAndStore.run environment settings).run w).2.spent = w.spent := by
  have file : FilePath.ofText (settings.text "--file") = (settings.store environment.defaults).file := rfl
  unfold Command.encryptAndStore
  dsimp only
  rw [file]
  cases found : Store.plaintext? (settings.store environment.defaults).file w.files with
  | some plaintext =>
    rw [Action.run_bind, (Store.readPlaintext_returns_iff.mp (Store.readPlaintext_iff.mpr found)).2]
    exact .inl (view_untilInterrupted _ w)
  | none =>
    obtain ⟨result, ran⟩ : ∃ result,
        (Store.regularFile? (settings.store environment.defaults).file).run w = (result, w) :=
      ⟨_, Prod.ext rfl (Store.regularFile?_keeps _ w)⟩
    rw [Action.run_bind, ran]
    cases result with
    | error cause => exact .inr ⟨rfl, rfl⟩
    | ok content =>
      cases content with
      | none => exact .inr ⟨rfl, rfl⟩
      | some content => exact .inl (view_untilInterrupted _ w)

theorem eq_of_name {c : Command} (known : c ∈ Command.all)
    (named : c.name = Command.encryptAndStore.name) : c = Command.encryptAndStore := by
  simp only [Command.all, List.mem_cons, List.not_mem_nil, or_false] at known
  rcases known with rfl | rfl | rfl | rfl | rfl
  · exact absurd named (by decide)
  · rfl
  · exact absurd named (by decide)
  · exact absurd named (by decide)
  · exact absurd named (by decide)

/-- The other commands draw nothing and upload nothing. -/
theorem spends_of_other {c : Command} (known : c ∈ Command.all)
    (other : c.name ≠ Command.encryptAndStore.name) (environment : Environment) (settings : Settings) :
    Keeps World.spent (c.run environment settings) := by
  simp only [Command.all, List.mem_cons, List.not_mem_nil, or_false] at known
  rcases known with rfl | rfl | rfl | rfl | rfl
  · exact fun w => (view_untilInterrupted _ w).trans (Retrieve.command_spends _ _ _ w)
  · exact absurd rfl other
  · exact Evidence.hash_spends _ _
  · exact Evidence.sign_spends _ _
  · exact Evidence.verify_spends _

end CommandLine

namespace Operation

def storing? : Operation → Option (StoreOptions × Session)
  | store o s => some (o, s)
  | storeCommand environment t o => (Session.open environment t).toOption.map (o, ·)
  | commandLine environment arguments =>
    match CommandLine.chosen? environment.defaults arguments with
    | some (c, settings) =>
      if c.name = CommandLine.Command.encryptAndStore.name then
        (Session.open environment settings.transport).toOption.map (settings.store environment.defaults, ·)
      else none
    | none => none
  | _ => none

def plaintext? (operation : Operation) (fs : FileSystem) : Option Bytes :=
  match operation with
  | encrypt _ plaintext => some plaintext
  | other => other.storing?.bind fun (o, _) => Store.plaintext? o.file fs

/-- An operation spends what a run of storing spends, unless it ends before the file is read. -/
def SpendsAs (operation : Operation) (o : StoreOptions) (s : Session) : Prop :=
  ∀ w, (operation.run.run w).2.spent = ((Store.run o s).run w).2.spent ∨
    Store.plaintext? o.file w.files = none ∧ (operation.run.run w).2.spent = w.spent

theorem view_outcome {view : World → γ} (action : Action α) (outcome : α → Outcome) (w : World) :
    view ((action >>= fun x => pure (outcome x)).run w).2 = view (action.run w).2 :=
  Keeps.view_bind (fun _ => .pure _) w

def StoresOrIdles (operation : Operation) : Prop :=
  (∃ o s, (∀ fs, operation.plaintext? fs = Store.plaintext? o.file fs) ∧ operation.SpendsAs o s) ∨
    (∀ fs, operation.plaintext? fs = none) ∧ Keeps World.spent operation.run

theorem storeCommand_cases (environment : Environment) (t : TransportOptions) (o : StoreOptions) :
    StoresOrIdles (storeCommand environment t o) := by
  have outcome (w : World) : ((storeCommand environment t o).run.run w).2.spent =
      ((Store.command environment t o).run w).2.spent := view_outcome _ _ w
  cases session : Session.open environment t with
  | ok s =>
    refine .inl ⟨o, s, fun fs => by simp only [plaintext?, storing?, session]; rfl, fun w => .inl ?_⟩
    exact (outcome w).trans (Store.command_spends session o w)
  | error e =>
    refine .inr ⟨fun fs => by simp only [plaintext?, storing?, session]; rfl, fun w => ?_⟩
    exact (outcome w).trans (Store.command_of_closed session o w)

theorem commandLine_cases (environment : Environment) (arguments : List Text) :
    StoresOrIdles (commandLine environment arguments) := by
  have outcome (w : World) : ((commandLine environment arguments).run.run w).2.spent =
      ((CommandLine.run environment arguments).run w).2.spent := view_outcome _ _ w
  cases chosen : CommandLine.chosen? environment.defaults arguments with
  | none =>
    refine .inr ⟨fun fs => by simp only [plaintext?, storing?, chosen]; rfl, fun w => (outcome w).trans ?_⟩
    exact CommandLine.run_keeps World.spent_tell World.spent_printed chosen w
  | some command =>
    obtain ⟨c, settings⟩ := command
    obtain ⟨ran, known⟩ := CommandLine.run_of_chosen chosen
    rw [ran] at outcome
    by_cases named : c.name = CommandLine.Command.encryptAndStore.name
    · obtain rfl := CommandLine.eq_of_name known named
      have cases := CommandLine.encryptAndStore_spends environment settings
      cases session : Session.open environment settings.transport with
      | ok s =>
        have content (fs : FileSystem) : (commandLine environment arguments).plaintext? fs =
            Store.plaintext? (settings.store environment.defaults).file fs := by
          simp only [plaintext?, storing?, chosen, if_pos, session]
          rfl
        refine .inl ⟨settings.store environment.defaults, s, content, fun w => ?_⟩
        rcases cases w with stores | ⟨none, idle⟩
        · exact .inl ((outcome w).trans (stores.trans (Store.command_spends session _ w)))
        · exact .inr ⟨none, (outcome w).trans idle⟩
      | error e =>
        have content (fs : FileSystem) : (commandLine environment arguments).plaintext? fs = none := by
          simp only [plaintext?, storing?, chosen, if_pos, session]
          rfl
        refine .inr ⟨content, fun w => (outcome w).trans ?_⟩
        rcases cases w with stores | ⟨-, idle⟩
        · exact stores.trans (Store.command_of_closed session _ w)
        · exact idle
    · have content (fs : FileSystem) : (commandLine environment arguments).plaintext? fs = none := by
        simp only [plaintext?, storing?, chosen, if_neg named]
        rfl
      refine .inr ⟨content, fun w => (outcome w).trans ?_⟩
      exact CommandLine.spends_of_other known named environment settings w

/-- Besides encrypting and uploading by themselves, operations store or idle. -/
theorem run_cases (operation : Operation) :
    (∃ fault plaintext, operation = encrypt fault plaintext) ∨
    (∃ s payload epochs, operation = put s payload epochs) ∨ operation.StoresOrIdles := by
  have idle {β : Type} {operation : Operation} {action : Action β} {outcome : β → Outcome}
      (ran : operation.run = action >>= fun x => pure (outcome x))
      (none : ∀ fs, operation.plaintext? fs = none) (kept : Keeps World.spent action) :
      operation.StoresOrIdles := by
    refine .inr ⟨none, ?_⟩
    rw [ran]
    exact .bind kept fun _ => .pure _
  cases operation with
  | encrypt fault plaintext => exact .inl ⟨fault, plaintext, rfl⟩
  | put s payload epochs => exact .inr (.inl ⟨s, payload, epochs, rfl⟩)
  | get s name => exact .inr (.inr (idle rfl (fun _ => rfl) (Client.get_spends s name)))
  | store o s => exact .inr (.inr (.inl ⟨o, s, fun _ => rfl, fun w => .inl (view_outcome _ _ w)⟩))
  | retrieve o s => exact .inr (.inr (idle rfl (fun _ => rfl) (Retrieve.run_spends o s)))
  | storeCommand environment t o => exact .inr (.inr (storeCommand_cases environment t o))
  | retrieveCommand environment t o =>
    exact .inr (.inr (idle rfl (fun _ => rfl) (Retrieve.command_spends environment t o)))
  | hashAudit v i => exact .inr (.inr (idle rfl (fun _ => rfl) (Evidence.hash_spends v i)))
  | signAudit v o => exact .inr (.inr (idle rfl (fun _ => rfl) (Evidence.sign_spends v o)))
  | verifyAudit o => exact .inr (.inr (idle rfl (fun _ => rfl) (Evidence.verify_spends o)))
  | commandLine environment arguments => exact .inr (.inr (commandLine_cases environment arguments))
  | reportError e => exact .inr (.inr (idle rfl (fun _ => rfl) (Report.error_keeps World.spent_tell e)))
  | reportBanner => exact .inr (.inr (idle rfl (fun _ => rfl) (Report.banner_keeps World.spent_tell)))
  | printJson members => exact .inr (.inr (idle rfl (fun _ => rfl) (.printJson World.spent_printed members)))

/-- What an operation does with the random source and with storage. One that encrypts takes two draws, every
other one takes none, and all that an operation uploads is one body. -/
structure Accounts (operation : Operation) (before : World) (result : Except Failure Outcome)
    (after : World) : Prop where
  idle : operation.plaintext? before.files = none →
    after.draws = before.draws ∧ after.drawSizes = before.drawSizes
  seals : ∀ plaintext, operation.plaintext? before.files = some plaintext → Seals plaintext before after
  alike : ∃ body n, after.uploads = before.uploads ++ List.replicate n body
  encrypted : ∀ fault plaintext ciphertext m, operation = .encrypt fault plaintext →
    result = .ok (.encrypted ciphertext m) →
    before.draws.take 2 = [some m.key, some m.nonce] ∧ Envelope.Produces m plaintext ciphertext
  received : ∀ o s r, operation = .store o s → result = .ok (.receipt r) →
    ∃ m : KeyMaterial, before.draws.take 2 = [some m.key, some m.nonce] ∧ r.decryptionKey = m.text

theorem encrypt_outcome {fault : Option CipherFault} {plaintext ciphertext : Bytes} {m : KeyMaterial}
    {w : World} (returned : ((encrypt fault plaintext).run.run w).1 = .ok (.encrypted ciphertext m)) :
    w.draws.take 2 = [some m.key, some m.nonce] ∧ Envelope.Produces m plaintext ciphertext := by
  obtain ⟨⟨c, drawn⟩, encrypted, same⟩ := Action.bind_returns_iff.mp returned
  cases same
  obtain ⟨draws, sealed⟩ := Envelope.encrypt_eq_ok_iff.mp encrypted
  exact ⟨draws, Envelope.produces_iff.mpr (Envelope.encryptWith_faultless sealed)⟩

theorem store_outcome {o : StoreOptions} {s : Session} {r : Receipt} {w : World}
    (returned : ((store o s).run.run w).1 = .ok (.receipt r)) :
    ∃ m : KeyMaterial, w.draws.take 2 = [some m.key, some m.nonce] ∧ r.decryptionKey = m.text := by
  obtain ⟨received, ran, same⟩ := Action.bind_returns_iff.mp returned
  cases same
  obtain ⟨_, m, _, stored⟩ := Store.run_returns (Returns.of_returned ran)
  exact ⟨m, stored.draws, stored.key⟩

/-- An operation takes two draws for the plaintext that it encrypts, and none if there is no plaintext. -/
theorem spends (operation : Operation) (w : World) :
    match operation.plaintext? w.files with
    | some plaintext => Seals plaintext w (operation.run.run w).2
    | none => ∃ body n, (operation.run.run w).2.spent =
        (w.draws, w.drawSizes, w.uploads ++ List.replicate n body) := by
  have idle {left : World} (same : left.spent = w.spent) :
      ∃ (body : Bytes) (n : Nat), left.spent = (w.draws, w.drawSizes, w.uploads ++ List.replicate n body) := by
    refine ⟨[], 0, same.trans ?_⟩
    rw [List.replicate_zero, List.append_nil]
    rfl
  rcases operation.run_cases with ⟨fault, plaintext, rfl⟩ | ⟨s, payload, epochs, rfl⟩ |
    ⟨o, s, content, stores⟩ | ⟨content, kept⟩
  · have sends (ciphertext : Bytes) (m : KeyMaterial) :
        Sends ciphertext (pure (.encrypted ciphertext m) : Action Outcome) := .of_keeps (.pure _)
    exact Seals.bind_encrypt sends w
  · exact ⟨payload, Sends.bind (Client.put_sends s payload epochs) (fun _ => .of_keeps (.pure _)) w⟩
  · rw [content]
    cases found : Store.plaintext? o.file w.files with
    | some plaintext =>
      rcases stores w with same | ⟨none, -⟩
      · exact (Store.run_seals found s).congr_right same
      · rw [found] at none
        cases none
    | none =>
      rcases stores w with same | ⟨-, same⟩
      · exact idle (same.trans (Store.run_of_none found s))
      · exact idle same
  · rw [content]
    exact idle (kept w)

theorem accounts (operation : Operation) (w : World) :
    Accounts operation w (operation.run.run w).1 (operation.run.run w).2 := by
  have spent := operation.spends w
  constructor
  case idle =>
    intro none
    simp only [none, World.spent, Prod.mk.injEq] at spent
    obtain ⟨_, _, draws, sizes, -⟩ := spent
    exact ⟨draws, sizes⟩
  case seals =>
    intro plaintext found
    simpa only [found] using spent
  case alike =>
    split at spent
    · exact spent.alike
    · obtain ⟨body, n, same⟩ := spent
      simp only [World.spent, Prod.mk.injEq] at same
      exact ⟨body, n, same.2.2⟩
  case encrypted =>
    rintro fault plaintext ciphertext m rfl returned
    exact encrypt_outcome returned
  case received =>
    rintro o s r rfl returned
    exact store_outcome returned

end Operation
end BlobVault
