import BlobVault.Environment

/-! The options of commands, the values that they take, and the mistakes in using them. -/
namespace BlobVault.CommandLine

/-- Bounds on an integer; the lower one is always there. -/
structure Range where
  least : Int
  most : Option Int

namespace Range

def contains (r : Range) (i : Int) : Bool :=
  r.least ≤ i && (match r.most with
    | some most => i ≤ most
    | none => true)

/-- The bounds as inequalities on `x`. -/
def text (r : Range) : Text :=
  match r.most with
  | some most => .ofInt r.least ++ "<=x<=" ++ .ofInt most
  | none => "x>=" ++ .ofInt r.least

end Range

/-- What an option stands for: it is on when given, or it takes a text or an integer in a range. Which integer
holds without the option may depend on the standard values. -/
inductive OptionKind where
  | flag
  | text
  | integer (range : Range) (fallback : Defaults → Int)

/-- An option with its name, dashes included. -/
structure OptionSpec where
  name : Text
  kind : OptionKind
  required : Bool
  help : Text

def OptionSpec.takesValue (o : OptionSpec) : Bool :=
  match o.kind with
  | .flag => false
  | _ => true

inductive Value where
  | on
  | text (t : Text)
  | integer (i : Int)

inductive UsageError where
  | noSuchOption (name : Text)
  | takesNoValue (name : Text)
  | needsValue (name : Text)
  | missingOption (name : Text)
  | notInteger (name value : Text)
  | outOfRange (name : Text) (value : Int) (range : Range)
  | extraArguments (arguments : List Text)
  | noSuchCommand (name : Text)
  | missingCommand

namespace UsageError

def invalidValue (name detail : Text) : Text :=
  "Invalid value for " ++ name.quoted ++ ": " ++ detail

def message : UsageError → Text
  | noSuchOption name => "No such option " ++ name.quoted ++ "."
  | takesNoValue name => "Option " ++ name.quoted ++ " does not take a value."
  | needsValue name => "Option " ++ name.quoted ++ " requires an argument."
  | missingOption name => "Missing option " ++ name.quoted ++ "."
  | notInteger name value => invalidValue name (value.quoted ++ " is not a valid integer range.")
  | outOfRange name value range =>
    invalidValue name (.ofInt value ++ " is not in the range " ++ range.text ++ ".")
  | extraArguments arguments =>
    (if arguments.length = 1 then "Got unexpected extra argument ("
      else "Got unexpected extra arguments (") ++ Text.join " " arguments ++ ")"
  | noSuchCommand name => "No such command " ++ name.quoted ++ "."
  | missingCommand => "Missing command."

/-- The usage of the command is shown with the error, except for values that are missing or too many. -/
def showsUsage : UsageError → Bool
  | takesNoValue _ | needsValue _ => false
  | _ => true

end UsageError
end BlobVault.CommandLine
