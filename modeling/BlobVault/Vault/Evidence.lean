import BlobVault.Audit.Record
import BlobVault.Audit.Signing
import BlobVault.Vault.Report

/-! The commands on audit records: hashing, signing and verifying. -/
namespace BlobVault.Evidence

/-- Goes on with a value, or reports the error of the vault for which there is none. -/
def orReport (result : Except Failure α) (next : α → Action Int) : Action Int :=
  match result with
  | .ok value => next value
  | .error (.known e) => Report.error e
  | .error failure => throw failure

def canonicalAndHash (i : AuditInput) : Except Failure (Text × Text) := do
  let record ← AuditRecord.build i
  let canonical ← Canonical.text record.members
  let hash ← Canonical.hash record.members
  .ok (canonical, hash)

def hash (v : Verbosity) (i : AuditInput) : Action Int :=
  orReport (canonicalAndHash i) fun (canonical, hash) => do
    v.trace ("Canonical record: " ++ canonical)
    Action.printJson [("record_hash", .text hash)]
    return 0

structure SignOptions where
  recordHash : Text
  privateKey : Text

def sign (v : Verbosity) (o : SignOptions) : Action Int :=
  if o.privateKey.isEmpty then do
    Action.report "No signing key was provided."
    return Report.inputCode
  else orReport (Signing.sign o.recordHash o.privateKey) fun signed => do
    v.detail ("Signed record hash with public key " ++ signed.publicKey)
    Action.printJson [("record_hash", .text o.recordHash), ("signature", .text signed.signature),
      ("public_key", .text signed.publicKey)]
    return 0

structure VerifyOptions where
  recordHash : Text
  signature : Text
  publicKey : Text

/-- Prints whether a signature is valid, which is also the exit code. -/
def verify (o : VerifyOptions) : Action Int :=
  orReport (Signing.verify o.publicKey o.recordHash o.signature) fun valid => do
    Action.printJson [("record_hash", .text o.recordHash), ("valid", .truth valid)]
    if valid then return 0
    Action.report "Signature does not match the record hash."
    return 1

end BlobVault.Evidence
