import BlobVault.Files.Path

/-! A file system: directories and regular files by their places, and a working directory. Places are
walked part by part, and each part but the last one has to be a directory. Every entry may be searched, read
and written: there are no permissions. -/
namespace BlobVault

/-- The names from the root to a file, outermost first. -/
abbrev Place := List Bytes

inductive Entry where
  | directory
  | file (content : Bytes)
  deriving DecidableEq

/-- What stands at which place, and the place where relative paths begin. -/
structure FileSystem where
  entries : List (Place × Entry)
  workingDirectory : Place

inductive PathFault where
  | notFound
  | notDirectory
  | isDirectory
  | nameTooLong
  deriving DecidableEq

namespace PathFault

def number : PathFault → Nat
  | .notFound => 2
  | .notDirectory => 20
  | .isDirectory => 21
  | .nameTooLong => 36

def description : PathFault → Text
  | .notFound => "No such file or directory"
  | .notDirectory => "Not a directory"
  | .isDirectory => "Is a directory"
  | .nameTooLong => "File name too long"

end PathFault

namespace FileSystem

/-- The most octets of a name, and one more than the most octets of a path. -/
def maxName : Nat := 255

def pathLimit : Nat := 4096

def parentName : Bytes := [0x2E, 0x2E]

/-- What stands at a place. The root is always a directory. -/
def lookup? (fs : FileSystem) (place : Place) : Option Entry :=
  if place.isEmpty then some .directory else fs.entries.lookup place

/-- Puts an entry at a place, instead of what stands there if anything does. -/
def put (place : Place) (entry : Entry) : List (Place × Entry) → List (Place × Entry)
  | [] => [(place, entry)]
  | held :: rest => if held.1 = place then (place, entry) :: rest else held :: put place entry rest

def write (fs : FileSystem) (place : Place) (content : Bytes) : FileSystem :=
  { fs with entries := put place (.file content) fs.entries }

def makeDirectory (fs : FileSystem) (place : Place) : FileSystem :=
  match fs.lookup? place with
  | some _ => fs
  | none => { fs with entries := put place .directory fs.entries }

def makeDirectories (fs : FileSystem) (place : Place) : FileSystem :=
  (List.range (place.length + 1)).foldl (fun fs depth => fs.makeDirectory (place.take depth)) fs

def empty (workingDirectory : Place) : FileSystem :=
  makeDirectories ⟨[], workingDirectory⟩ workingDirectory

/-- Writes a file into a directory that is made if it is not there. -/
def addFile (fs : FileSystem) (place : Place) (content : Bytes) : FileSystem :=
  (fs.makeDirectories place.dropLast).write place content

/-- The place that names lead to from a directory, where the last name need not stand for anything. -/
def walk (fs : FileSystem) (start : Place) : List Bytes → Except PathFault Place
  | [] => .ok start
  | name :: rest =>
    if name = parentName then walk fs start.dropLast rest
    else if maxName < name.length then .error .nameTooLong
    else
      let place := start ++ [name]
      match rest, fs.lookup? place with
      | [], _ => .ok place
      | _, some .directory => walk fs place rest
      | _, some (.file _) => .error .notDirectory
      | _, none => .error .notFound

def place (fs : FileSystem) (p : FilePath) : Except PathFault Place :=
  if pathLimit ≤ (FilePath.nameOctets p.text).length then .error .nameTooLong
  else fs.walk (if p.root = .relative then fs.workingDirectory else []) p.names

/-- The content of the regular file at the end of a path. -/
def read? (fs : FileSystem) (p : FilePath) : Option Bytes :=
  match fs.place p with
  | .error _ => none
  | .ok place =>
    match fs.lookup? place with
    | some (.file content) => some content
    | _ => none

/-- The place where a path lets a file be written: one that holds a file or nothing. -/
def writablePlace (fs : FileSystem) (p : FilePath) : Except PathFault Place :=
  match fs.place p with
  | .error fault => .error fault
  | .ok place => if fs.lookup? place = some .directory then .error .isDirectory else .ok place

end FileSystem
end BlobVault
