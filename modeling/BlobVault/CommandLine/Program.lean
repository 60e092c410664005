import BlobVault.CommandLine.Command
import BlobVault.CommandLine.Help

/-! The program: it finds the command that a command line names, reads its options and runs it. -/
namespace BlobVault.CommandLine

def programName : Text := "lazarus-vault"

def programSummary : Text := "Lazarus Vault, zero-knowledge encryption for Sentinel Protocol."

def usageCode : Int := 2

/-- What is parsed for: a command under its path, with the usage of its arguments. -/
structure Frame where
  path : Text
  usage : Text
  help : List Text

namespace Frame

def line (path arguments : Text) : Text := "Usage: " ++ path ++ " " ++ arguments

def program : Frame :=
  let usage := line programName "[OPTIONS] COMMAND [ARGS]..."
  ⟨programName, usage, Help.lines usage programSummary [OptionSpec.helpFlag]
    (Command.all.map fun c => (c.name, c.summary))⟩

def ofCommand (c : Command) : Frame :=
  let path := programName ++ " " ++ c.name
  let usage := line path "[OPTIONS]"
  ⟨path, usage, Help.lines usage c.summary c.allOptions []⟩

def showHelp (f : Frame) : Action Int := do
  f.help.forM Action.print
  return 0

/-- Reports a mistake, most often after the usage. -/
def misuse (f : Frame) (e : UsageError) : Action Int := do
  if e.showsUsage then
    Action.report f.usage
    Action.report ("Try '" ++ f.path ++ " --help' for help.")
    Action.report []
  Action.report ("Error: " ++ e.message)
  return usageCode

end Frame

/-- Reads options and goes on with the arguments, unless there is a mistake or help is asked for. Asking
for help comes before all mistakes in values. -/
def withArguments (f : Frame) (options : List OptionSpec) (interspersed : Bool)
    (arguments : List Text) (next : Arguments → Action Int) : Action Int :=
  match Arguments.read options interspersed arguments with
  | .error e => f.misuse e
  | .ok a => if a.has OptionSpec.helpFlag.name then f.showHelp else next a

def runCommand (environment : Environment) (c : Command) (arguments : List Text) : Action Int :=
  let frame := Frame.ofCommand c
  withArguments frame c.allOptions true arguments fun a =>
    match Settings.read environment.defaults c.allOptions a with
    | .error e => frame.misuse e
    | .ok settings => c.run environment settings

/-- Reads options of the program, which end at the first other argument. -/
def withProgramArguments (arguments : List Text) (next : List Text → Action Int) : Action Int :=
  withArguments .program [OptionSpec.helpFlag] false arguments fun a => next a.others

/-- Runs the command that the first argument names. A name that no command has is read once more as an
option of the program before it is refused. -/
def runNamed (environment : Environment) : List Text → Action Int
  | [] => Frame.program.misuse .missingCommand
  | name :: arguments =>
    match Command.all.find? (·.name == name) with
    | some c => runCommand environment c arguments
    | none =>
      withProgramArguments (name :: arguments) fun _ => Frame.program.misuse (.noSuchCommand name)

/-- Runs a command line; without any argument it only shows help, which then is no result. -/
def run (environment : Environment) (arguments : List Text) : Action Int :=
  if arguments.isEmpty then do
    Frame.program.help.forM Action.report
    return usageCode
  else withProgramArguments arguments (runNamed environment)

/-- Starts the program. The standard values are taken from the variables before the command line is looked
at. -/
def start (readDepth : Nat) (vars : Variables) (arguments : List Text) : Action Int := do
  let environment ← Action.ofExcept (Environment.load readDepth vars)
  run environment arguments

end BlobVault.CommandLine
