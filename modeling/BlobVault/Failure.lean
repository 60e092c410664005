import BlobVault.Text.Quoted
import BlobVault.Text.Utf8

/-! How an operation fails: by an error of the vault, which a command reports with an exit code, or by a
fault of its surroundings. -/
namespace BlobVault

/-- What went wrong, as far as the vault tells causes apart. -/
inductive ErrorKind where
  | general
  | input
  | noPublisher
  | noFile
  | emptyFile
  | hexFormat
  | keyFormat
  | scoreRange
  | textEncoding
  | outputWrite
  | cipher
  | cipherInit
  | encryption
  | decryption
  | checksumMismatch
  | transport
  deriving DecidableEq

/-- The errors that are reported alike. -/
inductive ErrorFamily where
  | general
  | input
  | cipher
  | transport
  deriving DecidableEq

def ErrorKind.family : ErrorKind → ErrorFamily
  | .general => .general
  | .input | .noPublisher | .noFile | .emptyFile | .hexFormat | .keyFormat | .scoreRange
  | .textEncoding | .outputWrite => .input
  | .cipher | .cipherInit | .encryption | .decryption | .checksumMismatch => .cipher
  | .transport => .transport

structure VaultError where
  kind : ErrorKind
  message : Text
  deriving DecidableEq

namespace ErrorFamily

def exitCode : ErrorFamily → Int
  | .general => 1
  | .input => 3
  | .cipher => 4
  | .transport => 5

def heading : ErrorFamily → Text
  | .general => "Operation failed"
  | .input => "Invalid input"
  | .cipher => "Cryptographic operation failed"
  | .transport => "Blob storage request failed"

end ErrorFamily

/-- Faults of a request for which the next candidate is tried. -/
inductive TransportFault where
  | client
  | connection
  | socket
  | payload
  | disconnected
  | serverTimeout
  | invalidUrl
  | timeout
  deriving DecidableEq

def TransportFault.name : TransportFault → Text
  | .client => "ClientError"
  | .connection => "ClientConnectionError"
  | .socket => "ClientOSError"
  | .payload => "ClientPayloadError"
  | .disconnected => "ServerDisconnectedError"
  | .serverTimeout => "ServerTimeoutError"
  | .invalidUrl => "InvalidURL"
  | .timeout => "TimeoutError"

def TransportFault.isSystem : TransportFault → Bool
  | .socket | .serverTimeout | .timeout => true
  | _ => false

/-- Faults that nothing expects, except that some of them are expected of the cipher. -/
inductive Crash where
  | runtime
  | system
  | value
  | type
  | overflow
  | missingMember
  | encoding
  | nesting
  | forgery
  deriving DecidableEq

inductive FaultKind where
  | transport (fault : TransportFault)
  | crash (crash : Crash)
  | cancelled
  | interrupted
  deriving DecidableEq

namespace FaultKind

def isSystem : FaultKind → Bool
  | .transport fault => fault.isSystem
  | .crash .system => true
  | _ => false

/-- A value is of the wrong type, or it is none that can be used. A text that has no octets and a faulty address
are such values. -/
def isUnfitValue : FaultKind → Bool
  | .crash .type | .crash .value | .crash .encoding | .transport .invalidUrl => true
  | _ => false

end FaultKind

structure Fault where
  kind : FaultKind
  details : List Text
  deriving DecidableEq

def tupleText (details : List Text) : Text :=
  "(" ++ Text.join ", " (details.map Text.quoted) ++ ")"

namespace Fault

/-- The message of a system fault: its number and description, and the files that it names. The fourth
detail is not shown. -/
def systemText : List Text → Text
  | [number, description] => "[Errno " ++ number ++ "] " ++ description
  | [number, description, file] | [number, description, file, _] =>
    "[Errno " ++ number ++ "] " ++ description ++ ": " ++ file.quoted
  | [number, description, file, _, other] =>
    "[Errno " ++ number ++ "] " ++ description ++ ": " ++ file.quoted ++ " -> " ++ other.quoted
  | details => tupleText details

/-- The message of a faulty address: the address, and its description if that says anything. -/
def addressText : List Text → Text
  | [address, description] => if description.isEmpty then address else address ++ " - " ++ description
  | details => Text.join " - " details

/-- The message of a fault: its only detail, or all of them. -/
def message (f : Fault) : Text :=
  match f.kind, f.details with
  | .transport .invalidUrl, details => addressText details
  | _, [] => []
  | .crash .missingMember, [name] => name.quoted
  | _, [detail] => detail
  | kind, details => if kind.isSystem then systemText details else tupleText details

/-- The details that stay with a system fault: those about files are set apart. -/
def systemDetails (details : List Text) : List Text :=
  if details.length ≤ 5 then details.take 2 else details

/-- A transport fault as the detail of a failed request: its name and its details. A broken connection
has a detail even if none was given, and a faulty address is shown as it is. -/
def transportText (fault : TransportFault) (details : List Text) : Text :=
  match fault, details with
  | .invalidUrl, details => "<" ++ fault.name ++ " " ++ addressText details ++ ">"
  | .disconnected, [] => fault.name ++ tupleText ["Server disconnected"]
  | _, details => fault.name ++ tupleText (if fault.isSystem then systemDetails details else details)

end Fault

inductive Failure where
  | known (error : VaultError)
  | fault (fault : Fault)
  deriving DecidableEq

namespace Failure

def crash (c : Crash) (details : List Text) : Failure := .fault ⟨.crash c, details⟩

def message : Failure → Text
  | .known e => e.message
  | .fault f => f.message

def tooManyDigits : Failure :=
  crash .value ["Exceeds the limit (4300 digits) for integer string conversion; use sys.set_int_max_str_digits() to increase the limit"]

end Failure

namespace EncodingFault

/-- Where the surrogates stand that cannot be encoded. -/
def message (f : EncodingFault) : Text :=
  let codec : Text := "'utf-8' codec can't encode "
  let reason : Text := ": surrogates not allowed"
  if f.first = f.last then
    let c := (f.text.drop f.first).headD Utf8.replacement
    codec ++ "character '\\u" ++ Text.hexDigits 4 c.val ++ "' in position " ++
      .ofNat f.first ++ reason
  else
    codec ++ "characters in position " ++ .ofNat f.first ++ "-" ++
      .ofNat f.last ++ reason

def failure (f : EncodingFault) : Failure := .crash .encoding [f.message]

end EncodingFault
end BlobVault
