import BlobVault.Vault.Store

/-! Retrieving a blob: it is downloaded, decrypted and written to a file. The file is only written when the
ciphertext is authentic and the content is the expected one. -/
namespace BlobVault

/-- Which blob is retrieved, how it is decrypted, and where it is written. -/
structure RetrieveOptions where
  blobId : Text
  decryptionKey : Text
  output : FilePath
  checksum : Text
  verbosity : Verbosity

namespace Retrieve

def mismatch (expected actual : Text) : VaultError :=
  ⟨.checksumMismatch, "Expected checksum " ++ expected ++ ", got " ++ actual⟩

def notWritten (output : FilePath) (fault : PathFault) : VaultError :=
  ⟨.outputWrite, "Failed to write decrypted output: " ++ output.text ++ " (" ++
    fault.description ++ ")"⟩

/-- Compares the digest of the content with the expected one, if one is expected. Blanks around it and the
case of its letters do not matter. -/
def checkChecksum (o : RetrieveOptions) (plaintext : Bytes) : Action Unit :=
  if o.checksum.isEmpty then pure ()
  else do
    let actual := Canonical.checksum plaintext
    if actual ≠ Text.lowerAscii o.checksum.strip then
      Action.fail (mismatch o.checksum actual)
    o.verbosity.detail ("       Checksum verified: " ++ actual)

/-- Writes a file. A text that cannot be a name is a fault, and a path that leads nowhere is an error. -/
def writeOutput (output : FilePath) (content : Bytes) : Action Unit := do
  let w ← get
  match output.namingFault? with
  | some fault => throw fault.failure
  | none =>
    if output.holdsNul then throw (.crash .value ["embedded null byte"])
    match w.files.writablePlace output with
    | .error fault => Action.fail (notWritten output fault)
    | .ok place => set { w with files := w.files.write place content }

/-- Downloads a blob, and tells of the key that will open it. -/
def download (o : RetrieveOptions) (m : KeyMaterial) (s : Session) : Action Bytes := do
  Action.report ("[1/4] Downloading encrypted blob: " ++ o.blobId)
  let ciphertext ← Client.get s o.blobId
  Action.report ("       Ciphertext size: " ++ .ofNat ciphertext.length ++ " bytes")
  Action.report "[2/4] Decoding decryption key..."
  o.verbosity.trace ("Decoded " ++ .ofNat m.key.length ++ " byte key and " ++
    .ofNat m.nonce.length ++ " byte nonce")
  Action.report "[3/4] Decrypting blob..."
  return ciphertext

/-- Opens a blob, whose content has to be the expected one. A fault strikes the cipher instead. -/
def unpack (fault : Option CipherFault) (o : RetrieveOptions) (m : KeyMaterial) (ciphertext : Bytes) :
    Action Bytes := do
  let plaintext ← Action.ofExcept
    (Envelope.decrypt fault ciphertext (some m.key) (some m.nonce))
  checkChecksum o plaintext
  return plaintext

/-- The content of a blob, once the ciphertext is authentic and the digest is the expected one. The key
is read before the download. -/
def content (fault : Option CipherFault) (o : RetrieveOptions) (s : Session) : Action Bytes := do
  let m ← Action.ofExcept (KeyMaterial.decode o.decryptionKey)
  let ciphertext ← download o m s
  unpack fault o m ciphertext

/-- Writes content to the output file. -/
def save (o : RetrieveOptions) (plaintext : Bytes) : Action Int := do
  Action.report ("[4/4] Writing decrypted file: " ++ o.output.text)
  writeOutput o.output plaintext
  return 0

/-- Retrieves a blob with a cipher that a fault may strike. -/
def runUnder (fault : Option CipherFault) (o : RetrieveOptions) (s : Session) : Action Int := do
  let plaintext ← content fault o s
  save o plaintext

/-- Downloads a blob and decrypts it into the output file. -/
def run (o : RetrieveOptions) (s : Session) : Action Int := runUnder none o s

def finish (o : RetrieveOptions) (code : Int) : Action Int := do
  Action.report []
  Action.report ("Success! Blob decrypted to " ++ o.output.text)
  return code

/-- The command with a cipher that a fault may strike. -/
def commandUnder (fault : Option CipherFault) (environment : Environment) (t : TransportOptions)
    (o : RetrieveOptions) : Action Int :=
  Report.guarded (Session.open environment t) [Report.interrupted] (runUnder fault o) (finish o)

def command (environment : Environment) (t : TransportOptions) (o : RetrieveOptions) : Action Int :=
  commandUnder none environment t o

end Retrieve
end BlobVault
