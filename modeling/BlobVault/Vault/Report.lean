import BlobVault.Storage.Session
import BlobVault.World

/-! How commands report failures. -/
namespace BlobVault.Report

/-- Reports an error of the vault and gives the exit code of its family. -/
def error (e : VaultError) : Action Int := do
  Action.report (e.kind.family.heading ++ ": " ++ e.message)
  return e.kind.family.exitCode

/-- The lines before the details of a failure that nothing expects. -/
def bannerLines : List Text := [
  "Program encountered an unhandled exception.",
  "If you think there's a mistake, copy this message and lines after it, and include it in your bug report for diagnostic purposes.",
  "If possible, include instructions on how to replicate the issue (what you did in order to make this happen)",
  "Exception details:",
  "-------------------------- BEGIN EXCEPTION TRACEBACK --------------------------"]

def banner : Action Unit := bannerLines.forM Action.report

def interrupted : Text := "Received a keyboard interrupt, aborting..."

/-- The exit code of a command that was cancelled or interrupted. -/
def interruptedCode : Int := 130

def inputCode : Int := ErrorFamily.input.exitCode

def noPublisherLine : Text := "No Walrus publisher address was provided."

/-- Runs the part of a command that may fail, and gives its value or the exit code of the command. A
cancellation and the errors of the vault are reported; other failures go on, and all but an
interruption after a banner. -/
def guard (onCancel : List Text) (body : Action α) : Action (Except Int α) := do
  match ← body.attempt with
  | .ok value => return .ok value
  | .error (.known e) => return .error (← error e)
  | .error (.fault f) =>
    match f.kind with
    | .cancelled =>
      onCancel.forM Action.report
      return .error interruptedCode
    | .interrupted => throw (.fault f)
    | _ =>
      banner
      throw (.fault f)

/-- A command that opens a session, runs an operation in it under a guard and finishes with its value. -/
def guarded (session : Except VaultError Session) (onCancel : List Text) (operation : Session → Action α)
    (finish : α → Action Int) : Action Int :=
  match session with
  | .error _ => do
    Action.report noPublisherLine
    return inputCode
  | .ok s => do
    match ← guard onCancel (operation s) with
    | .error code => return code
    | .ok value => finish value

end BlobVault.Report
