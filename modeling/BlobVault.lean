import BlobVault.Audit.Record
import BlobVault.Audit.Score
import BlobVault.Audit.Signing
import BlobVault.Audit.Tags
import BlobVault.Bytes
import BlobVault.Cipher.Aes256
import BlobVault.Cipher.Block
import BlobVault.Cipher.Gcm
import BlobVault.CommandLine.Arguments
import BlobVault.CommandLine.Command
import BlobVault.CommandLine.Help
import BlobVault.CommandLine.Option
import BlobVault.CommandLine.Program
import BlobVault.Digest.Sha2
import BlobVault.Environment
import BlobVault.Failure
import BlobVault.Files.Path
import BlobVault.Files.Tree
import BlobVault.Json.Basic
import BlobVault.Json.Display
import BlobVault.Json.Reader
import BlobVault.Json.Writer
import BlobVault.Main
import BlobVault.Number.Binary64
import BlobVault.Number.Shortest
import BlobVault.Operation
import BlobVault.Proofs.Action
import BlobVault.Proofs.Audit.Canonical
import BlobVault.Proofs.Audit.Hashing
import BlobVault.Proofs.Audit.Rederivation
import BlobVault.Proofs.Audit.Signing
import BlobVault.Proofs.Audit.Sized
import BlobVault.Proofs.Audit.Tags
import BlobVault.Proofs.Audit.Verification
import BlobVault.Proofs.Bytes
import BlobVault.Proofs.Cipher.Authenticator
import BlobVault.Proofs.Cipher.Field
import BlobVault.Proofs.Cipher.Gcm
import BlobVault.Proofs.CommandLine.Choices
import BlobVault.Proofs.CommandLine.Front
import BlobVault.Proofs.CommandLine.Program
import BlobVault.Proofs.CommandLine.Spelling
import BlobVault.Proofs.Coupling
import BlobVault.Proofs.Files.Tree
import BlobVault.Proofs.History
import BlobVault.Proofs.Json.Display
import BlobVault.Proofs.Json.Encoding
import BlobVault.Proofs.Json.Nesting
import BlobVault.Proofs.Json.Reading
import BlobVault.Proofs.Json.RoundTrip
import BlobVault.Proofs.Json.Scalar
import BlobVault.Proofs.Json.Shown
import BlobVault.Proofs.Json.Text
import BlobVault.Proofs.Operation
import BlobVault.Proofs.Result
import BlobVault.Proofs.Storage.AnyBody
import BlobVault.Proofs.Storage.BlobId
import BlobVault.Proofs.Storage.ErrorStatus
import BlobVault.Proofs.Storage.Fallback
import BlobVault.Proofs.Storage.Response
import BlobVault.Proofs.Text.Blank
import BlobVault.Proofs.Text.CodePoint
import BlobVault.Proofs.Text.ControlSequence
import BlobVault.Proofs.Text.Decimal
import BlobVault.Proofs.Text.Flaw
import BlobVault.Proofs.Text.Hex
import BlobVault.Proofs.Text.HexGrammar
import BlobVault.Proofs.Text.Numeral
import BlobVault.Proofs.Text.Order
import BlobVault.Proofs.Text.Pieces
import BlobVault.Proofs.Text.Quoted
import BlobVault.Proofs.Text.Surrogate
import BlobVault.Proofs.Text.Utf8
import BlobVault.Proofs.Vault.Command
import BlobVault.Proofs.Vault.Ending
import BlobVault.Proofs.Vault.Envelope
import BlobVault.Proofs.Vault.Freshness
import BlobVault.Proofs.Vault.Issuing
import BlobVault.Proofs.Vault.KeyText
import BlobVault.Proofs.Vault.Opening
import BlobVault.Proofs.Vault.Paths
import BlobVault.Proofs.Vault.Report
import BlobVault.Proofs.Vault.Retrieval
import BlobVault.Proofs.Vault.RoundTrip
import BlobVault.Proofs.Vault.Secrecy
import BlobVault.Proofs.Vault.Spending
import BlobVault.Proofs.Vault.Storing
import BlobVault.Proofs.Vault.Tampering
import BlobVault.Proofs.Vault.Twins
import BlobVault.Signature.Ed25519
import BlobVault.Signature.EdwardsCurve
import BlobVault.Storage.BlobId
import BlobVault.Storage.Client
import BlobVault.Storage.Exchange
import BlobVault.Storage.Session
import BlobVault.Text.Basic
import BlobVault.Text.Blank
import BlobVault.Text.ControlSequence
import BlobVault.Text.DecimalDigit
import BlobVault.Text.Hex
import BlobVault.Text.Integer
import BlobVault.Text.Printable
import BlobVault.Text.Quoted
import BlobVault.Text.Utf8
import BlobVault.Vault.Envelope
import BlobVault.Vault.Evidence
import BlobVault.Vault.Report
import BlobVault.Vault.Retrieve
import BlobVault.Vault.Store
import BlobVault.World
