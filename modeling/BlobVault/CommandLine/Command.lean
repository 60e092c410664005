import BlobVault.CommandLine.Arguments
import BlobVault.Vault.Evidence
import BlobVault.Vault.Retrieve

/-! The five commands: their options, and the operations that they stand in front of. -/
namespace BlobVault.CommandLine

structure Command where
  name : Text
  summary : Text
  options : List OptionSpec
  run : Environment → Settings → Action Int

namespace OptionSpec

def needed (name help : Text) : OptionSpec := ⟨name, .text, true, help⟩

def free (name help : Text) : OptionSpec := ⟨name, .text, false, help⟩

def flag (name help : Text) : OptionSpec := ⟨name, .flag, false, help⟩

def verbose : OptionSpec := flag "--verbose" "Print more information."

def debug : OptionSpec := flag "--debug" "Print debug information."

def helpFlag : OptionSpec := flag "--help" "Show this message and exit."

def epochs : OptionSpec :=
  ⟨"--epochs", .integer ⟨1, none⟩ Defaults.storageEpochs, false, "Number of epochs to store the blob for."⟩

def timeout : OptionSpec :=
  ⟨"--timeout", .integer ⟨0, none⟩ fun _ => 0, false, "Request timeout in seconds."⟩

def noCheckCertificate : OptionSpec :=
  flag "--no-check-certificate" "Don't check TLS certificate for authenticity. (development use only)"

end OptionSpec

namespace Settings

def verbosity (s : Settings) : Verbosity := ⟨s.flag "--debug", s.flag "--verbose"⟩

def transport (s : Settings) : TransportOptions :=
  ⟨s.text "--publisher", s.integer "--timeout" 0, s.flag "--no-check-certificate"⟩

end Settings

/-- An interruption ends a command with the exit code of one that was cancelled. -/
def untilInterrupted (command : Action Int) : Action Int := do
  match ← command.attempt with
  | .ok code => return code
  | .error (.fault f) =>
    if f.kind = .interrupted then return Report.interruptedCode else throw (.fault f)
  | .error failure => throw failure

namespace Command

open OptionSpec

def encryptAndStore : Command where
  name := "encrypt-and-store"
  summary := "Encrypt a file and store it on Walrus."
  options := [
    needed "--file" "Path to the file to encrypt.",
    free "--publisher"
      "Walrus publisher URL, e.g. https://publisher.walrus-testnet.walrus.space",
    epochs, timeout, noCheckCertificate, verbose, debug]
  run environment s := do
    let file := FilePath.ofText (s.text "--file")
    match ← Store.regularFile? file with
    | none =>
      Action.report "Could not access the provided file."
      return Report.inputCode
    | some _ =>
      let epochs := s.integer "--epochs" environment.defaults.storageEpochs
      untilInterrupted (Store.command environment s.transport ⟨file, epochs, s.verbosity⟩)

def decrypt : Command where
  name := "decrypt"
  summary := "Download and decrypt a blob from Walrus."
  options := [
    needed "--blob-id" "Walrus blob ID.",
    needed "--decryption-key" "Hex encoded decryption key (key || nonce).",
    free "--publisher" "Walrus publisher or aggregator URL.",
    needed "--output" "Output file path for the decrypted plaintext.",
    free "--checksum" "Expected SHA-256 checksum of the plaintext, checked before writing.",
    timeout, noCheckCertificate, verbose, debug]
  run environment s :=
    untilInterrupted (Retrieve.command environment s.transport
      ⟨s.text "--blob-id", s.text "--decryption-key", .ofText (s.text "--output"),
        s.text "--checksum", s.verbosity⟩)

def hashAudit : Command where
  name := "hash-audit"
  summary := "Compute the deterministic hash of an audit record."
  options := [
    needed "--action" "Action the record describes.",
    needed "--prompt" "Prompt that triggered the action.",
    ⟨"--score", .integer ⟨0, some 255⟩ fun _ => 0, true, "Risk score (0-255)."⟩,
    needed "--tags" "Comma separated list of tags.",
    needed "--decision" "Decision taken on the action.",
    needed "--reason" "Reason for the decision.",
    needed "--timestamp" "Timestamp of the record.",
    verbose, debug]
  run _ s :=
    Evidence.hash s.verbosity ⟨s.text "--action", s.text "--prompt", .integer (s.integer "--score" 0),
      s.text "--tags", s.text "--decision", s.text "--reason", s.text "--timestamp"⟩

/-- The variable that holds the signing key of a command without one. -/
def signingKeyVariable : Text := "LAZARUS_SIGNING_KEY"

def signAudit : Command where
  name := "sign-audit"
  summary := "Sign an audit record hash with an ed25519 key."
  options := [
    needed "--record-hash" "Hex encoded record hash.",
    free "--private-key"
      "Hex encoded 32-byte ed25519 seed. Defaults to $LAZARUS_SIGNING_KEY.",
    verbose, debug]
  run environment s :=
    let given := s.text "--private-key"
    let key := if given.isEmpty then (environment.vars.lookup signingKeyVariable).getD [] else given
    Evidence.sign s.verbosity ⟨s.text "--record-hash", key⟩

def verifyAudit : Command where
  name := "verify-audit"
  summary := "Verify an audit record hash signature."
  options := [
    needed "--record-hash" "Hex encoded record hash.",
    needed "--signature" "Hex encoded ed25519 signature.",
    needed "--public-key" "Hex encoded ed25519 public key.",
    verbose, debug]
  run _ s :=
    Evidence.verify ⟨s.text "--record-hash", s.text "--signature", s.text "--public-key"⟩

/-- All commands, in the order in which help lists them. -/
def all : List Command := [decrypt, encryptAndStore, hashAudit, signAudit, verifyAudit]

def allOptions (c : Command) : List OptionSpec := c.options ++ [helpFlag]

end Command
end BlobVault.CommandLine
