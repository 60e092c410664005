import BlobVault.Failure
import BlobVault.Text.Blank

/-! Tags: the set of the pieces of a comma separated text, written in one order. -/
namespace BlobVault.Tags

/-- The pieces of a text without the blanks around them, those that are nothing else left out. -/
def labels (csv : Text) : List Text :=
  ((Text.pieces ',' csv).map Text.strip).filter fun label => !label.isEmpty

/-- Puts a label in its place among labels in increasing order of their octets, once. -/
def insert (label : Text) : List Text → List Text
  | [] => [label]
  | first :: rest =>
    if label.utf8 < first.utf8 then label :: first :: rest
    else if label = first then first :: rest
    else first :: insert label rest

/-- The labels in increasing order of their octets, each once. -/
def normalize (labels : List Text) : List Text := labels.foldr insert []

/-- The tags of a text. A label with a surrogate has no octets to be ordered by. -/
def parse (csv : Text) : Except Failure (List Text) :=
  match (labels csv).findSome? Text.encodingFault? with
  | some fault => .error fault.failure
  | none => .ok (normalize (labels csv))

end BlobVault.Tags
