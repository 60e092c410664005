import BlobVault.Failure
import BlobVault.Json.Display

/-! Risk scores: integers of eight bits. -/
namespace BlobVault

abbrev Score := UInt8

namespace Score

def outOfRange (shown : Text) : VaultError :=
  ⟨.scoreRange, "Score must be an integer between 0 and 255, got " ++ shown ++ "."⟩

/-- Accepts the integers from 0 to 255 and no other value, not even a truth value. An integer that is
too long to be shown cannot be reported. -/
def validate (value : Scalar) : Except Failure Score :=
  match value with
  | .integer i =>
    if 0 ≤ i ∧ i ≤ 255 then .ok (.ofNat i.toNat)
    else if value.isWritable then .error (.known (outOfRange value.notate))
    else .error .tooManyDigits
  | other => .error (.known (outOfRange other.notate))

end Score
end BlobVault
