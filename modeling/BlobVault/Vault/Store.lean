import BlobVault.Audit.Record
import BlobVault.Storage.Client
import BlobVault.Vault.Envelope
import BlobVault.Vault.Report

/-! Storing a file: it is read, encrypted under new key material and uploaded. -/
namespace BlobVault

/-- Which file is stored, and for how many epochs. -/
structure StoreOptions where
  file : FilePath
  epochs : Int
  verbosity : Verbosity

/-- What the owner of a stored file keeps. -/
structure Receipt where
  blobId : Text
  decryptionKey : Text
  checksum : Text
  originalSize : Nat
  encryptedSize : Nat

def Receipt.members (r : Receipt) : Members :=
  [("blob_id", .text r.blobId), ("decryption_key", .text r.decryptionKey),
    ("checksum", .text r.checksum), ("original_size", .nat r.originalSize),
    ("encrypted_size", .nat r.encryptedSize)]

namespace Store

def noFile (file : FilePath) : VaultError :=
  ⟨.noFile, "Could not access the provided file " ++ file.text⟩

def emptyFile (file : FilePath) : VaultError :=
  ⟨.emptyFile, "File " ++ file.text ++ " is empty"⟩

/-- A fault of the file system that names the file. -/
def systemFault (fault : PathFault) (file : FilePath) : Failure :=
  .crash .system [.ofNat fault.number, fault.description, file.text]

/-- The content of a path if it is a regular file. A path that names nothing is none; only a name that is
too long is a fault. -/
def regularFile? (file : FilePath) : Action (Option Bytes) := do
  let fs := (← get).files
  if file.namingFault?.isSome || file.holdsNul then return none
  match fs.place file with
  | .error .nameTooLong => throw (systemFault .nameTooLong file)
  | _ => return fs.read? file

/-- The content of the file to be stored, which must not be empty. -/
def readPlaintext (file : FilePath) : Action Bytes := do
  match ← regularFile? file with
  | none => Action.fail (noFile file)
  | some [] => Action.fail (emptyFile file)
  | some content => return content

/-- The line about the epochs of a blob. An integer that is too long has none. -/
def epochsLine (epochs : Int) : Except Failure Text :=
  match Integer.text? epochs with
  | some t => .ok ("Storing the blob for " ++ t ++ " epochs")
  | none => .error .tooManyDigits

/-- The line about the epochs is only made when it is shown. -/
def traceEpochs (o : StoreOptions) : Action Unit :=
  if o.verbosity.debug then do
    let line ← Action.ofExcept (epochsLine o.epochs)
    Action.report line
  else pure ()

/-- A file that is ready for its upload. -/
structure Parcel where
  plaintext : Bytes
  ciphertext : Bytes
  material : KeyMaterial

/-- Reads and encrypts a file. -/
def prepare (o : StoreOptions) (s : Session) : Action Parcel := do
  Action.report ("[1/5] Reading file: " ++ o.file.text)
  let plaintext ← readPlaintext o.file
  Action.report ("       File size: " ++ .ofNat plaintext.length ++ " bytes")
  Action.report "[2/5] Computing SHA-256 checksum..."
  Action.report ("       Checksum: " ++ Canonical.checksum plaintext)
  Action.report "[3/5] Encrypting file with AES-256-GCM..."
  let (ciphertext, material) ← Envelope.encrypt none plaintext
  Action.report ("       Encrypted size: " ++ .ofNat ciphertext.length ++ " bytes")
  Action.report "[4/5] Uploading to Walrus..."
  o.verbosity.detail ("       Publisher: " ++ s.publisher)
  traceEpochs o
  return ⟨plaintext, ciphertext, material⟩

/-- The receipt for a file that was uploaded under an id. -/
def receipt (p : Parcel) (id : Text) : Action Receipt := do
  Action.report ("       Blob ID: " ++ id)
  Action.report "[5/5] Generating output..."
  let key ← Action.ofExcept (KeyMaterial.encode (some p.material.key) (some p.material.nonce))
  return ⟨id, key, Canonical.checksum p.plaintext, p.plaintext.length, p.ciphertext.length⟩

/-- Encrypts a file and stores the ciphertext as a blob. -/
def run (o : StoreOptions) (s : Session) : Action Receipt := do
  let p ← prepare o s
  let id ← Client.put s p.ciphertext o.epochs
  receipt p id

def cancelledLines : List Text :=
  [Report.interrupted, "A blob that was already uploaded will not be removed."]

/-- Prints the receipt. -/
def finish (r : Receipt) : Action Int := do
  Action.printJson r.members
  Action.report []
  Action.report "Success! File encrypted and stored on Walrus."
  Action.report "CRITICAL: Save the 'decryption_key' securely. It cannot be recovered!"
  return 0

/-- The command: prints the receipt and gives the exit code. -/
def command (environment : Environment) (t : TransportOptions) (o : StoreOptions) : Action Int :=
  Report.guarded (Session.open environment t) cancelledLines (run o) finish

end Store
end BlobVault
