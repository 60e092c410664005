import BlobVault.CommandLine.Program

/-! The vault as a program on a real machine: it takes arguments, environment, random octets and the files
that arguments name, runs the command line on them, and writes what was printed. It has no transport
of its own, so every request ends like one to a server that cannot be reached. -/
namespace BlobVault

def variableNames : List String :=
  ["WALRUS_PUBLISHER_URL", "LAZARUS_SIGNING_KEY", "LAZARUS_VAULT_EPOCHS", "LAZARUS_VAULT_HTTP_TIMEOUT"]

def readVariables : IO Variables := do
  let mut found := []
  for name in variableNames do
    if let some value ← IO.getEnv name then
      found := (Text.ofString name, Text.ofString value) :: found
  return found

/-- The depth to which this program follows brackets. -/
def readDepth : Nat := 1000

/-- The argument itself, and what is attached to it by an equals sign. -/
def namedPaths (argument : String) : List String :=
  let attached := argument.toList.dropWhile (· != '=')
  [argument, String.ofList (attached.drop 1)]

/-- The place of a path, by its parts alone. -/
def placeOf (home : Place) (path : FilePath) : Place :=
  path.names.foldl (fun place name => if name = FileSystem.parentName then place.dropLast else place ++ [name])
    (if path.root = .relative then home else [])

def readFiles (arguments : List String) : IO FileSystem := do
  let home := placeOf [] (.ofText (.ofString (← IO.currentDir).toString))
  let mut files := FileSystem.empty home
  for name in arguments.flatMap namedPaths do
    try
      let content ← IO.FS.readBinFile name
      files := files.addFile (placeOf home (.ofText (.ofString name))) content.data.toList
    catch _ => pure ()
  return files

def readDraw (size : Nat) : IO Draw := do
  return some (← IO.getRandomBytes (.ofNat size)).data.toList

/-- Text as it is written to a stream; what a stream cannot show becomes U+FFFD. -/
def streamString (t : Text) : String :=
  .ofList (t.map fun c => if c.isSurrogate then Char.ofNat 0xFFFD else Char.ofNat c.val)

end BlobVault

open BlobVault in
def main (arguments : List String) : IO UInt32 := do
  let draws := [← readDraw keySize, ← readDraw nonceSize]
  let world : World := ⟨← readFiles arguments, draws, [], [], [], [], []⟩
  let program := CommandLine.start readDepth (← readVariables) (arguments.map Text.ofString)
  let (result, world) := program.run world
  IO.print (streamString world.output)
  IO.eprint (streamString world.diagnostics)
  match result with
  | .ok code => return .ofNat code.toNat
  | .error failure =>
    IO.eprintln (streamString failure.message)
    return 1
