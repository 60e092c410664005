import BlobVault.Failure
import BlobVault.Json.Display
import BlobVault.Json.Reader

/-! The blob id in a publisher's response. -/
namespace BlobVault.BlobId

def notJson : VaultError := ⟨.transport, "Could not parse store response as JSON"⟩

def notObject : VaultError := ⟨.transport, "Store response was not a JSON object"⟩

def missing : VaultError := ⟨.transport, "Store response is missing a blob id"⟩

/-- The members of an object that has a name; none if there is no such object. -/
def object? (name : Text) (m : Members) : Option Members :=
  match m.get? name with
  | some (.object inner) => some inner
  | _ => none

/-- The value of a name if it stands for something. -/
def solid? (name : Text) (m : Members) : Option Json :=
  match m.get? name with
  | some value => if value.isVoid then none else some value
  | none => none

/-- The id in the description of a blob: that of its object, or else its own. -/
def inEntry? (entry : Members) : Option Json :=
  match object? "blobObject" entry with
  | some blob => (solid? "blobId" blob).or (solid? "blobId" entry)
  | none => solid? "blobId" entry

/-- The descriptions that a response may hold, in the order of preference. -/
def entryNames : List Text := ["newlyCreated", "alreadyCertified"]

def find? (response : Members) : Option Json :=
  entryNames.findSome? fun name => (object? name response).bind inEntry?

def nestingFailure : Json.Reader.Container → Failure
  | .array => .crash .nesting
      ["maximum recursion depth exceeded while decoding a JSON array from a unicode string"]
  | .object => .crash .nesting
      ["maximum recursion depth exceeded while decoding a JSON object from a unicode string"]

/-- The id in the body of a response, as text. The reader follows brackets to a depth. -/
def parse (depth : Nat) (body : Text) : Except Failure Text :=
  match Json.read depth body with
  | .error .malformed => .error (.known notJson)
  | .error (.tooDeep container) => .error (nestingFailure container)
  | .ok (.object response) =>
    match find? response with
    | some id => .ok id.display
    | none => .error (.known missing)
  | .ok _ => .error (.known notObject)

end BlobVault.BlobId
