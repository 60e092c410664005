import BlobVault.Number.Shortest
import BlobVault.Text.Integer

/-! JSON values. Texts may hold lone surrogates, integers are unbounded, and the members of an object
keep their order. -/
namespace BlobVault

/-- A value without parts. -/
inductive Scalar where
  | null
  | truth (value : Bool)
  | integer (value : Int)
  | real (value : Binary64)
  | text (value : Text)
  deriving DecidableEq

inductive Json where
  | scalar (value : Scalar)
  | array (items : List Json)
  | object (members : List (Text × Json))

/-- The members of an object, by their names in order. -/
abbrev Members := List (Text × Json)

namespace Members

def get? (name : Text) (m : Members) : Option Json :=
  (m.find? fun member => member.1 == name).map (·.2)

/-- Gives a name a value: in its place when the name is there, and else at the end. -/
def put (name : Text) (value : Json) : Members → Members
  | [] => [(name, value)]
  | member :: rest =>
    if member.1 = name then (name, value) :: rest else member :: put name value rest

/-- The members as an object holds them: a name's first place with its last value. -/
def ofList (m : Members) : Members := m.foldl (fun held member => put member.1 member.2 held) []

end Members

namespace Scalar

/-- A value that stands for nothing: null, false, zero and the empty text. -/
def isVoid : Scalar → Bool
  | .null => true
  | .truth value => !value
  | .integer value => value == 0
  | .real value => value.isZero
  | .text value => value.isEmpty

/-- An integer that can be written within the limit of digits, or no integer. -/
def isWritable : Scalar → Bool
  | .integer value => (Integer.text? value).isSome
  | _ => true

end Scalar

namespace Json

def text (t : Text) : Json := .scalar (.text t)

def nat (n : Nat) : Json := .scalar (.integer n)

def truth (b : Bool) : Json := .scalar (.truth b)

def isVoid : Json → Bool
  | .scalar value => value.isVoid
  | .array items => items.isEmpty
  | .object members => members.isEmpty

mutual
/-- All integers in the value are within the limit of digits. -/
def isWritable : Json → Bool
  | .scalar value => value.isWritable
  | .array items => areWritable items
  | .object members => membersAreWritable members

def areWritable : List Json → Bool
  | [] => true
  | item :: rest => item.isWritable && areWritable rest

def membersAreWritable : List (Text × Json) → Bool
  | [] => true
  | (_, value) :: rest => value.isWritable && membersAreWritable rest
end

end Json
end BlobVault
