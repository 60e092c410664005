import BlobVault.CommandLine.Option

/-! Help texts. Names stand in a first column and descriptions, broken between words, in a second one. -/
namespace BlobVault.CommandLine.Help

def width : Nat := 78

def blanks (n : Nat) : Text := List.replicate n ' '

/-- The words of a text, each with the number of blanks in front of it. -/
def spacedWords : (gap : Nat) → List Text → List (Nat × Text)
  | _, [] => []
  | gap, piece :: rest =>
    if piece.isEmpty then spacedWords (gap + 1) rest else (gap, piece) :: spacedWords 1 rest

/-- Fills lines with words. The blanks in front of a word that begins a line are dropped. -/
def fill (width : Nat) : (line : Text) → List (Nat × Text) → List Text
  | line, [] => [line]
  | line, (gap, word) :: rest =>
    let longer := line ++ blanks gap ++ word
    if line.isEmpty then fill width word rest
    else if longer.length ≤ width then fill width longer rest
    else line :: fill width word rest

def wrap (width : Nat) (t : Text) : List Text := fill width [] (spacedWords 0 (Text.pieces ' ' t))

/-- Rows of a name and a description, with two blanks between the columns. -/
def table (rows : List (Text × Text)) : List Text :=
  let column := (rows.map (·.1.length)).foldl max 0 + 2
  rows.flatMap fun (name, description) =>
    match wrap (width - column - 2) description with
    | [] => [blanks 2 ++ name]
    | first :: rest =>
      (blanks 2 ++ name ++ blanks (column - name.length) ++ first) ::
        rest.map (blanks (column + 2) ++ ·)

def optionName (o : OptionSpec) : Text :=
  match o.kind with
  | .flag => o.name
  | .text => o.name ++ " TEXT"
  | .integer .. => o.name ++ " INTEGER RANGE"

/-- What holds for an option besides its description. -/
def remarks (o : OptionSpec) : List Text :=
  let bounds : List Text := match o.kind with
    | .integer range _ => [range.text]
    | _ => []
  let required : List Text := if o.required then ["required"] else []
  bounds ++ required

def optionRow (o : OptionSpec) : Text × Text :=
  (optionName o, match remarks o with
    | [] => o.help
    | remarks => o.help ++ "  [" ++ Text.join "; " remarks ++ "]")

def headed (heading : Text) (rows : List (Text × Text)) : List Text :=
  if rows.isEmpty then [] else [] :: (heading ++ ":") :: table rows

/-- The lines of a help text: usage, summary, options and commands. -/
def lines (usage summary : Text) (options : List OptionSpec) (commands : List (Text × Text)) :
    List Text :=
  [usage, [], blanks 2 ++ summary] ++ headed "Options" (options.map optionRow) ++
    headed "Commands" commands

end BlobVault.CommandLine.Help
