import BlobVault.Storage.BlobId
import BlobVault.Storage.Session
import BlobVault.World

/-! The client of blob storage. Publishers answer under one of two paths, depending on their age, so each
operation has two candidate requests, which are tried in order until one succeeds. -/
namespace BlobVault.Client

def storePaths : List Text := ["/v1/store", "/v1/blobs"]

def readPaths (id : Text) : List Text := ["/v1/" ++ id, "/v1/blobs/" ++ id]

def storeRequest (s : Session) (payload : Bytes) (epochs path : Text) : Request :=
  ⟨.put, s.publisher ++ path, some epochs, some payload, s.timeout, !s.noCheckCertificate⟩

def readRequest (s : Session) (path : Text) : Request :=
  ⟨.get, s.publisher ++ path, none, none, s.timeout, !s.noCheckCertificate⟩

/-- What a candidate comes to: a value, the detail of its failure, or a fault that ends the operation. -/
abbrev Verdict (α : Type) := Except Failure (Except Text α)

def urlDetail (url detail : Text) : Text := url ++ " -> " ++ detail

/-- The verdict on a reply: error statuses and transport faults fail the candidate. -/
def verdict (url : Text) (r : Reply) : Verdict Bytes :=
  match r.outcome with
  | .ok (.ok body) => .ok (.ok body)
  | .ok (.error text) =>
    .ok (.error (urlDetail url ("status " ++ .ofInt r.status ++ ": " ++ text)))
  | .error fault =>
    match fault.kind with
    | .transport t => .ok (.error (urlDetail url (Fault.transportText t fault.details)))
    | _ => .error (.fault fault)

/-- The verdict on a reply to a store request, whose body has to name a blob. -/
def storeVerdict (readDepth : Nat) (url : Text) (r : Reply) : Verdict Text :=
  match verdict url r with
  | .ok (.ok body) =>
    match BlobId.parse readDepth (Utf8.decodeLossy body) with
    | .ok id => .ok (.ok id)
    | .error (.known e) => .ok (.error (urlDetail url e.message))
    | .error failure => .error failure
  | .ok (.error detail) => .ok (.error detail)
  | .error failure => .error failure

/-- Sends the candidates in order until one succeeds. If none does, the last detail is reported. -/
def firstSuccess (judge : Text → Reply → Verdict α) (report : Text → VaultError) :
    List Request → (detail : Text) → Action α
  | [], detail => Action.fail (report detail)
  | candidate :: rest, _ => do
    match judge candidate.url (← Action.send candidate) with
    | .ok (.ok value) => return value
    | .ok (.error detail) => firstSuccess judge report rest detail
    | .error failure => throw failure

def uploadFailed (detail : Text) : VaultError :=
  ⟨.transport, "Failed to upload blob to Walrus: " ++ detail⟩

def downloadFailed (id detail : Text) : VaultError :=
  ⟨.transport, "Failed to download blob " ++ id ++ " from Walrus: " ++ detail⟩

/-- Stores a blob and returns the id that the publisher assigns to it. -/
def put (s : Session) (payload : Bytes) (epochs : Int) : Action Text :=
  match Integer.text? epochs with
  | none => throw .tooManyDigits
  | some epochs =>
    firstSuccess (storeVerdict s.readDepth) uploadFailed (storePaths.map (storeRequest s payload epochs)) []

def get (s : Session) (id : Text) : Action Bytes :=
  firstSuccess verdict (downloadFailed id) ((readPaths id).map (readRequest s)) []

end BlobVault.Client
