import BlobVault.Audit.Score
import BlobVault.Audit.Tags
import BlobVault.Digest.Sha2
import BlobVault.Json.Writer
import BlobVault.Text.Hex

/-! Audit records and their canonical form: a compact JSON object with the seven fields in a fixed order.
Auditors derive the hash of a record from it again, so neither names nor order ever change. -/
namespace BlobVault

/-- The values that a record is made of, as they are given. -/
structure AuditInput where
  action : Text
  prompt : Text
  score : Scalar
  tags : Text
  decision : Text
  reason : Text
  timestamp : Text

/-- A record whose values have been checked. -/
structure AuditRecord where
  action : Text
  prompt : Text
  score : Score
  tags : List Text
  decision : Text
  reason : Text
  timestamp : Text
  deriving DecidableEq

namespace AuditRecord

/-- The names of the fields in the order of the canonical form. -/
def fieldNames : List Text :=
  ["action", "prompt", "score", "tags", "decision", "reason", "timestamp"]

def notText (field : Text) : VaultError :=
  ⟨.textEncoding, "Field " ++ field ++ " is not valid UTF-8 text"⟩

def undecodable : VaultError := ⟨.textEncoding, "Audit record fields must be valid UTF-8 text"⟩

/-- Refuses a text that UTF-8 cannot encode. -/
def checkText (field value : Text) : Except Failure Unit :=
  if value.hasSurrogate then .error (.known (notText field)) else .ok ()

/-- Makes a record. All texts are checked before the score. -/
def build (i : AuditInput) : Except Failure AuditRecord := do
  checkText "action" i.action
  checkText "prompt" i.prompt
  checkText "tags" i.tags
  checkText "decision" i.decision
  checkText "reason" i.reason
  checkText "timestamp" i.timestamp
  let score ← Score.validate i.score
  let tags ← Tags.parse i.tags
  .ok ⟨i.action, i.prompt, score, tags, i.decision, i.reason, i.timestamp⟩

def members (r : AuditRecord) : Members :=
  [("action", .text r.action), ("prompt", .text r.prompt), ("score", .nat r.score.toNat),
    ("tags", .array (r.tags.map .text)), ("decision", .text r.decision), ("reason", .text r.reason),
    ("timestamp", .text r.timestamp)]

end AuditRecord

/-! The canonical form of any object that holds the seven fields. -/
namespace Canonical

/-- The value of a field, which has to be there. -/
def field (record : Members) (name : Text) : Except Failure (Text × Json) :=
  match record.get? name with
  | some value => .ok (name, value)
  | none => .error (.crash .missingMember [name])

/-- The seven fields in their order; other members are left out. -/
def fields (record : Members) : Except Failure Members :=
  AuditRecord.fieldNames.mapM (field record)

def text (record : Members) : Except Failure Text := do
  let fields ← fields record
  let object := Json.object fields
  if !object.isWritable then .error .tooManyDigits
  else
    let text := object.write .compact
    if text.hasSurrogate then .error (.known AuditRecord.undecodable) else .ok text

def bytes (record : Members) : Except Failure Bytes := return (← text record).utf8

/-- The digest of octets in lower-case hexadecimal. -/
def checksum (b : Bytes) : Text := Hex.write (Digest.sha256 b)

/-- The hash of a record: `0x` and the digest of its canonical form. -/
def hash (record : Members) : Except Failure Text :=
  return "0x" ++ checksum (← bytes record)

end Canonical

def AuditInput.hash (i : AuditInput) : Except Failure Text := do
  Canonical.hash (← AuditRecord.build i).members

end BlobVault
