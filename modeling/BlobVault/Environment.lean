import BlobVault.Failure
import BlobVault.Text.Integer

/-! What a program finds when it starts: the variables that are set, the standard values that it takes from
them once, and the depth to which its JSON reader goes on a machine. -/
namespace BlobVault

/-- The variables that are set, each with its value. -/
abbrev Variables := List (Text × Text)

/-- The values for what a caller leaves out. -/
structure Defaults where
  storageEpochs : Int
  requestTimeout : Int

namespace Defaults

/-- One epoch, and five minutes. -/
def standard : Defaults := ⟨1, 300⟩

def epochsVariable : Text := "LAZARUS_VAULT_EPOCHS"

def timeoutVariable : Text := "LAZARUS_VAULT_HTTP_TIMEOUT"

/-- The most code points of a quoted value in a message. -/
def shownLength : Nat := 200

def notInteger (value : Text) : Integer.Fault → Failure
  | .malformed => .crash .value
      ["invalid literal for int() with base 10: " ++ value.quoted.take shownLength]
  | .tooManyDigits count => .crash .value
      ["Exceeds the limit (4300 digits) for integer string conversion: value has " ++ .ofNat count ++
        " digits; use sys.set_int_max_str_digits() to increase the limit"]

def setting (vars : Variables) (name : Text) (fallback : Int) : Except Failure Int :=
  match vars.lookup name with
  | none => .ok fallback
  | some value =>
    match Integer.read value with
    | .ok i => .ok i
    | .error fault => .error (notInteger value fault)

/-- The values that the variables ask for. A variable that is set has to hold an integer. -/
def load (vars : Variables) : Except Failure Defaults := do
  let epochs ← setting vars epochsVariable standard.storageEpochs
  let timeout ← setting vars timeoutVariable standard.requestTimeout
  .ok ⟨epochs, timeout⟩

end Defaults

/-- What surrounds a run. The standard values are taken from the variables when the program starts, and stay as
they are when a variable changes. The depth of the reader is that of the machine, and what is in use of it. -/
structure Environment where
  vars : Variables
  defaults : Defaults
  readDepth : Nat

/-- The environment in which a program starts. -/
def Environment.load (readDepth : Nat) (vars : Variables) : Except Failure Environment := do
  let defaults ← Defaults.load vars
  .ok ⟨vars, defaults, readDepth⟩

end BlobVault
