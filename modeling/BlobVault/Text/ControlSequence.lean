import BlobVault.Text.Quoted

/-! What a stream that is not a terminal shows of a message: control sequences are removed, and on
the diagnostic stream a surrogate is spelled out. -/
namespace BlobVault.ControlSequence

def escape : CodePoint := 0x1B

def isParameter (c : CodePoint) : Bool := 0x30 ≤ c.val && c.val ≤ 0x3F

def isIntermediate (c : CodePoint) : Bool := 0x20 ≤ c.val && c.val ≤ 0x2F

def isFinal (c : CodePoint) : Bool := 0x40 ≤ c.val && c.val ≤ 0x7E

/-- How much of a text completes a control sequence whose escape stands before it: a bracket,
parameters, intermediates and one final code point. -/
def length? : Text → Option Nat
  | [] => none
  | bracket :: body =>
    if bracket = '[' then
      let parameters := body.takeWhile isParameter
      let rest := body.drop parameters.length
      let intermediates := rest.takeWhile isIntermediate
      match rest.drop intermediates.length with
      | [] => none
      | c :: _ =>
        if isFinal c then some (parameters.length + intermediates.length + 2) else none
    else none

/-- Leaves out as many code points as are due, and then every control sequence. -/
def removeFrom : Nat → Text → Text
  | _, [] => []
  | due + 1, _ :: rest => removeFrom due rest
  | 0, c :: rest =>
    if c = escape then
      match length? rest with
      | some due => removeFrom due rest
      | none => c :: removeFrom 0 rest
    else c :: removeFrom 0 rest

/-- The text without its control sequences. -/
def remove (t : Text) : Text := removeFrom 0 t

/-- A surrogate as a backslash, `u` and four digits, since it cannot be written as it is. -/
def spellSurrogates (t : Text) : Text :=
  t.flatMap fun c => if c.isSurrogate then "\\u" ++ Text.hexDigits 4 c.val else [c]

end BlobVault.ControlSequence
