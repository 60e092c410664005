import BlobVault.CommandLine.Program

/-! The operations of the vault as values, and histories of them. The operations of a history work one after
the other on the same files and draw from the same random source. -/
namespace BlobVault

inductive Operation where
  | encrypt (fault : Option CipherFault) (plaintext : Bytes)
  | put (s : Session) (payload : Bytes) (epochs : Int)
  | get (s : Session) (id : Text)
  | store (o : StoreOptions) (s : Session)
  | retrieve (o : RetrieveOptions) (s : Session)
  | storeCommand (environment : Environment) (t : TransportOptions) (o : StoreOptions)
  | retrieveCommand (environment : Environment) (t : TransportOptions) (o : RetrieveOptions)
  | hashAudit (v : Verbosity) (i : AuditInput)
  | signAudit (v : Verbosity) (o : Evidence.SignOptions)
  | verifyAudit (o : Evidence.VerifyOptions)
  | commandLine (environment : Environment) (arguments : List Text)
  | reportError (e : VaultError)
  | reportBanner
  | printJson (members : Members)

inductive Outcome where
  | done
  | exitCode (code : Int)
  | encrypted (ciphertext : Bytes) (material : KeyMaterial)
  | blobId (id : Text)
  | content (b : Bytes)
  | receipt (r : Receipt)

def Operation.run : Operation → Action Outcome
  | encrypt fault plaintext => do
    let (ciphertext, material) ← Envelope.encrypt fault plaintext
    return .encrypted ciphertext material
  | put s payload epochs => return .blobId (← Client.put s payload epochs)
  | get s id => return .content (← Client.get s id)
  | store o s => return .receipt (← Store.run o s)
  | retrieve o s => return .exitCode (← Retrieve.run o s)
  | storeCommand environment t o => return .exitCode (← Store.command environment t o)
  | retrieveCommand environment t o => return .exitCode (← Retrieve.command environment t o)
  | hashAudit v i => return .exitCode (← Evidence.hash v i)
  | signAudit v o => return .exitCode (← Evidence.sign v o)
  | verifyAudit o => return .exitCode (← Evidence.verify o)
  | commandLine environment arguments => return .exitCode (← CommandLine.run environment arguments)
  | reportError e => return .exitCode (← Report.error e)
  | reportBanner => do
    Report.banner
    return .done
  | printJson members => do
    Action.printJson members
    return .done

/-- What lasts from one operation to the next. -/
structure Workspace where
  files : FileSystem
  draws : List Draw

/-- A step of a history: an action, the replies that servers give to it, and its draws if it has a random
source of its own. -/
structure Step (α : Type) where
  action : Action α
  replies : List Reply
  ownDraws : Option (List Draw)

namespace Step

/-- The world in which a step begins: nothing has been printed, drawn or requested. -/
def world (s : Step α) (w : Workspace) : World :=
  ⟨w.files, s.ownDraws.getD w.draws, [], s.replies, [], [], []⟩

/-- What a step comes to, and the world that it leaves. -/
def run (s : Step α) (w : Workspace) : Except Failure α × World := s.action.run (s.world w)

/-- The workspace after a step that leaves a world. A random source of its own leaves the shared one as it
was. -/
def after (s : Step α) (w : Workspace) (left : World) : Workspace :=
  ⟨left.files, if s.ownDraws.isSome then w.draws else left.draws⟩

end Step

/-- Runs the steps of a history one after the other. -/
def Workspace.perform (w : Workspace) : List (Step α) → List (Except Failure α × World)
  | [] => []
  | step :: rest =>
    let (result, left) := step.run w
    (result, left) :: (step.after w left).perform rest

end BlobVault
