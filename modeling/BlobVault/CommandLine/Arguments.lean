import BlobVault.CommandLine.Option

/-! The division of a command line into options and other arguments, and the values of the options. -/
namespace BlobVault.CommandLine

/-- An option as it was given, with its text if it takes one. -/
structure Occurrence where
  spec : OptionSpec
  value : Text

/-- The options of a command line in the order in which they were given, and the other arguments. -/
structure Arguments where
  occurrences : List Occurrence
  others : List Text

namespace Arguments

def empty : Arguments := ⟨[], []⟩

def addOption (a : Arguments) (spec : OptionSpec) (value : Text) : Arguments :=
  { a with occurrences := ⟨spec, value⟩ :: a.occurrences }

def addOther (a : Arguments) (t : Text) : Arguments := { a with others := t :: a.others }

def terminator : Text := "--"

/-- A dash with something behind it begins an option. -/
def isOption (t : Text) : Bool :=
  match t with
  | c :: _ :: _ => c = '-'
  | _ => false

/-- The name of an option, and the value that is attached to it by the first equals sign. -/
def splitAttached (t : Text) : Text × Option Text :=
  let name := t.takeWhile (· != ('=' : CodePoint))
  match t.drop name.length with
  | [] => (name, none)
  | _ :: value => (name, some value)

/-- The name under which an option that no one knows is reported: after a single dash it is the letter
behind the dash. -/
def unknownName (argument name : Text) : Text :=
  if argument.take 2 = terminator then name else argument.take 2

/-- Reads a command line. A value is taken as it is, also when it looks like an option. Where other
arguments end the options, the rest is not looked at. -/
def read (options : List OptionSpec) (interspersed : Bool) : List Text → Except UsageError Arguments
  | [] => .ok empty
  | argument :: rest =>
    if argument = terminator then .ok ⟨[], rest⟩
    else if isOption argument then
      let (name, attached) := splitAttached argument
      match options.find? (·.name == name) with
      | none => .error (.noSuchOption (unknownName argument name))
      | some spec =>
        if spec.takesValue then
          match attached with
          | some value => (read options interspersed rest).map (·.addOption spec value)
          | none =>
            match rest with
            | [] => .error (.needsValue name)
            | value :: rest => (read options interspersed rest).map (·.addOption spec value)
        else if attached.isSome then .error (.takesNoValue name)
        else (read options interspersed rest).map (·.addOption spec [])
    else if interspersed then (read options interspersed rest).map (·.addOther argument)
    else .ok ⟨[], argument :: rest⟩

def lastText? (a : Arguments) (name : Text) : Option Text :=
  (a.occurrences.reverse.find? (·.spec.name == name)).map (·.value)

def has (a : Arguments) (name : Text) : Bool := a.occurrences.any (·.spec.name == name)

end Arguments

abbrev Settings := List (Text × Value)

namespace Settings

/-- An integer that is given or holds without being given has to be in the range of its option. -/
def inRange (spec : OptionSpec) (range : Range) (i : Int) : Except UsageError Int :=
  if range.contains i then .ok i else .error (.outOfRange spec.name i range)

/-- The value of an option, if it is given. -/
def value? (defaults : Defaults) (a : Arguments) (spec : OptionSpec) : Except UsageError (Option Value) :=
  match a.lastText? spec.name with
  | none =>
    if spec.required then .error (.missingOption spec.name)
    else
      match spec.kind with
      | .integer range fallback => (inRange spec range (fallback defaults)).map fun _ => none
      | _ => .ok none
  | some t =>
    match spec.kind with
    | .flag => .ok (some .on)
    | .text => .ok (some (.text t))
    | .integer range _ =>
      match Integer.read t with
      | .error _ => .error (.notInteger spec.name t)
      | .ok i => (inRange spec range i).map (some ∘ .integer)

/-- Options in the order of their first use, and then the others as they are declared. -/
def order (options : List OptionSpec) (a : Arguments) : List OptionSpec :=
  let used := a.occurrences.map (·.spec)
  let place (spec : OptionSpec) : Nat := used.findIdx (·.name == spec.name)
  options.mergeSort fun s t => place s ≤ place t

/-- The values of all options; the first mistake in the order of options counts. -/
def ofOptions (defaults : Defaults) (a : Arguments) : List OptionSpec → Except UsageError Settings
  | [] => .ok []
  | spec :: rest => do
    let first ← value? defaults a spec
    let others ← ofOptions defaults a rest
    .ok (match first with
      | some value => (spec.name, value) :: others
      | none => others)

/-- The values of a command line without other arguments. -/
def read (defaults : Defaults) (options : List OptionSpec) (a : Arguments) : Except UsageError Settings := do
  let settings ← ofOptions defaults a (order options a)
  if a.others.isEmpty then .ok settings else .error (.extraArguments a.others)

def text (s : Settings) (name : Text) : Text :=
  match s.lookup name with
  | some (.text t) => t
  | _ => []

def integer (s : Settings) (name : Text) (fallback : Int) : Int :=
  match s.lookup name with
  | some (.integer i) => i
  | _ => fallback

def flag (s : Settings) (name : Text) : Bool := (s.lookup name).isSome

end Settings
end BlobVault.CommandLine
