import BlobVault.Bytes
import BlobVault.Text.Utf8

/-! Paths as they are given and shown, and the names of files that they stand for. A path is shown without
repeated slashes, single dots and a slash at its end. -/
namespace BlobVault

/-- Where a path begins. Exactly two slashes are a beginning of their own. -/
inductive PathRoot where
  | relative
  | absolute
  | doubled
  deriving DecidableEq

structure FilePath where
  root : PathRoot
  parts : List Text
  deriving DecidableEq

namespace FilePath

def slash : CodePoint := '/'

def ofText (t : Text) : FilePath :=
  let slashes := (t.takeWhile (· == slash)).length
  let root : PathRoot := if slashes = 0 then .relative else if slashes = 2 then .doubled else .absolute
  ⟨root, (Text.pieces slash t).filter fun part => !part.isEmpty && part != "."⟩

def rootText : PathRoot → Text
  | .relative => []
  | .absolute => "/"
  | .doubled => "//"

/-- The text of a path; a dot for the path without parts. -/
def text (p : FilePath) : Text :=
  match rootText p.root ++ Text.join "/" p.parts with
  | [] => "."
  | t => t

/-- The names of a file system are octets. A text gives its encoding, and the surrogates from U+DC80 to
U+DCFF give the octets that are not part of an encoding. -/
def nameOctets (t : Text) : Bytes :=
  t.flatMap fun c => if 0xDC80 ≤ c.val ∧ c.val ≤ 0xDCFF then [.ofNat (c.val - 0xDC00)] else c.utf8

def isUnnameable (c : CodePoint) : Bool := c.isSurrogate && !(0xDC80 ≤ c.val && c.val ≤ 0xDCFF)

/-- Why a text names no file. A run of surrogates that holds one without an octet is faulty from there
to its end. -/
def namingFaultFrom (whole : Text) (position : Nat) : Text → Option EncodingFault
  | [] => none
  | c :: rest =>
    if isUnnameable c then
      some ⟨whole, position, position + (rest.takeWhile CodePoint.isSurrogate).length⟩
    else namingFaultFrom whole (position + 1) rest

def namingFault? (p : FilePath) : Option EncodingFault := namingFaultFrom p.text 0 p.text

/-- The path holds U+0000, at which a name would end. -/
def holdsNul (p : FilePath) : Bool := p.text.contains 0

def names (p : FilePath) : List Bytes := p.parts.map nameOctets

end FilePath
end BlobVault
