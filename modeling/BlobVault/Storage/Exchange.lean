import BlobVault.Failure

/-! Requests to blob storage and the replies of a server. A reply may break down when the request is sent,
while the text of an error is read, or while the body is read. -/
namespace BlobVault

inductive Method where
  | get
  | put
  deriving DecidableEq

structure Request where
  method : Method
  url : Text
  epochs : Option Text
  payload : Option Bytes
  timeout : Int
  checksCertificate : Bool
  deriving DecidableEq

/-- The type that a request gives for its payload, which is opaque. -/
def Request.contentType (r : Request) : Option Text :=
  if r.payload.isSome then some "application/octet-stream" else none

/-- Where an exchange can break down. -/
inductive Stage where
  | sending
  | errorText
  | body
  deriving DecidableEq

/-- What a server replies, and the fault by which the exchange breaks down. -/
structure Reply where
  status : Int
  body : Bytes
  text : Text
  fault : Option (Stage × Fault)

namespace Reply

def unreachable : Reply := ⟨0, [], [], some (.sending, ⟨.transport .connection, []⟩)⟩

def faultAt? (r : Reply) (stage : Stage) : Option Fault :=
  match r.fault with
  | some (s, fault) => if s = stage then some fault else none
  | none => none

/-- The status says that the request was served. -/
def isSuccess (r : Reply) : Bool := 200 ≤ r.status && r.status < 300

/-- What fetching the reply comes to: the body, or the text of an error status. -/
def outcome (r : Reply) : Except Fault (Except Text Bytes) :=
  match r.faultAt? .sending with
  | some fault => .error fault
  | none =>
    if r.isSuccess then
      match r.faultAt? .body with
      | some fault => .error fault
      | none => .ok (.ok r.body)
    else
      match r.faultAt? .errorText with
      | some fault => .error fault
      | none => .ok (.error r.text)

end Reply
end BlobVault
