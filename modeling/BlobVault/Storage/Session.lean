import BlobVault.Environment

/-! The session with a publisher. -/
namespace BlobVault

/-- How a command reaches its publisher, as the options say. -/
structure TransportOptions where
  publisher : Text
  timeout : Int
  noCheckCertificate : Bool

/-- A publisher's address, the seconds that a request may take, and whether its certificate is checked; and
how many brackets that are open at once the reader of its answers follows. -/
structure Session where
  publisher : Text
  timeout : Int
  noCheckCertificate : Bool
  readDepth : Nat

namespace Session

def noPublisher : VaultError := ⟨.noPublisher, []⟩

def publisherVariable : Text := "WALRUS_PUBLISHER_URL"

/-- Opens a session. What the options leave out is as the environment says, and slashes at the end of the
address are dropped. -/
def «open» (environment : Environment) (o : TransportOptions) : Except VaultError Session :=
  let address :=
    if o.publisher.isEmpty then (environment.vars.lookup publisherVariable).getD [] else o.publisher
  let publisher := Text.dropEndWhile (· == '/') address
  if publisher.isEmpty then .error noPublisher
  else .ok ⟨publisher, if o.timeout = 0 then environment.defaults.requestTimeout else o.timeout,
    o.noCheckCertificate, environment.readDepth⟩

end Session
end BlobVault
