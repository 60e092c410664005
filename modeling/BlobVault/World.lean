import BlobVault.Failure
import BlobVault.Files.Tree
import BlobVault.Json.Writer
import BlobVault.Storage.Exchange
import BlobVault.Text.ControlSequence

/-! Operations with effects are steps on one value: the files, the draws that the random source will give,
the replies that servers will give, the requests made so far and what was printed. -/
namespace BlobVault

/-- What a random source returns: octets, or a value that is none. -/
abbrev Draw := Option Bytes

structure World where
  files : FileSystem
  draws : List Draw
  drawSizes : List Nat
  replies : List Reply
  requests : List Request
  output : Text
  diagnostics : Text

/-- A step that returns a value or fails; what it did before it failed stays done. -/
abbrev Action (α : Type) := ExceptT Failure (StateM World) α

namespace Action

def ofExcept : Except Failure α → Action α
  | .ok value => pure value
  | .error failure => throw failure

def fail (error : VaultError) : Action α := throw (.known error)

/-- Runs an action and gives its failure as a value. -/
def attempt (action : Action α) : Action (Except Failure α) :=
  fun w => let (result, w) := action.run w; (.ok result, w)

/-- A line on the diagnostic stream. -/
def report (message : Text) : Action Unit :=
  modify fun w =>
    { w with diagnostics := w.diagnostics ++ ControlSequence.spellSurrogates (ControlSequence.remove message) ++ "\n" }

/-- A line of output. -/
def print (message : Text) : Action Unit :=
  modify fun w => { w with output := w.output ++ ControlSequence.remove message ++ "\n" }

/-- A result on the output, as indented JSON. -/
def printJson (members : Members) : Action Unit :=
  let object := Json.object members
  if object.isWritable then print (object.write .indented) else throw .tooManyDigits

/-- Asks the random source for octets. A source that has run dry returns no octets. -/
def draw (size : Nat) : Action Draw := do
  let w ← get
  set { w with draws := w.draws.tail, drawSizes := w.drawSizes ++ [size] }
  return w.draws.headD none

/-- Sends a request. A server that has no reply left cannot be reached. -/
def send (request : Request) : Action Reply := do
  let w ← get
  set { w with replies := w.replies.tail, requests := w.requests ++ [request] }
  return w.replies.headD .unreachable

end Action

structure Verbosity where
  debug : Bool
  verbose : Bool

namespace Verbosity

/-- A line that is only shown when more information is asked for. -/
def detail (v : Verbosity) (message : Text) : Action Unit :=
  if v.verbose then Action.report message else pure ()

/-- A line that is only shown for debugging. -/
def trace (v : Verbosity) (message : Text) : Action Unit :=
  if v.debug then Action.report message else pure ()

end Verbosity

end BlobVault
