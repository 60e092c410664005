import BlobVault.Json.Basic
import BlobVault.Text.Quoted

/-! How a JSON value is shown in running text: a text as it is, every other value in a notation of its
own in which inner texts are quoted. -/
namespace BlobVault

/-- The names that running text gives to values which are not finite. -/
def Scalar.realNames : Binary64.SpecialNames := ⟨"nan", "inf"⟩

def Scalar.notate : Scalar → Text
  | .null => "None"
  | .truth true => "True"
  | .truth false => "False"
  | .integer value => .ofInt value
  | .real value => value.text realNames
  | .text value => value.quoted

namespace Json

mutual
def notate : Json → Text
  | .scalar value => value.notate
  | .array items => "[" ++ notateItems items ++ "]"
  | .object members => "\x7b" ++ notateMembers members ++ "\x7d"

def notateItems : List Json → Text
  | [] => []
  | [item] => item.notate
  | item :: rest => item.notate ++ ", " ++ notateItems rest

def notateMembers : List (Text × Json) → Text
  | [] => []
  | [(name, value)] => name.quoted ++ ": " ++ value.notate
  | (name, value) :: rest =>
    name.quoted ++ ": " ++ value.notate ++ ", " ++ notateMembers rest
end

def display : Json → Text
  | .scalar (.text value) => value
  | other => other.notate

end Json
end BlobVault
