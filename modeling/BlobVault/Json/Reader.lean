import BlobVault.Json.Basic
import BlobVault.Text.Hex

/-! Reading JSON. A reader takes a beginning of the text and returns the value with the rest. Beyond
the standard it knows the names of the three values that are not finite, and it limits the digits
of an integer. How many brackets may be open at once is up to the machine, and an argument. -/
namespace BlobVault.Json.Reader

/-- The brackets that were one too many. -/
inductive Container where
  | array
  | object
  deriving DecidableEq

/-- Why a text is not read: it is no JSON, or brackets open deeper than the reader follows. -/
inductive Fault where
  | malformed
  | tooDeep (container : Container)
  deriving DecidableEq

def isSpace (c : CodePoint) : Bool := c.val == 0x20 || c.val == 0x09 || c.val == 0x0A || c.val == 0x0D

def skipSpace (t : Text) : Text := t.dropWhile isSpace

/-- What follows a word at the beginning of a text. -/
def after? : (word t : Text) → Option Text
  | [], t => some t
  | _, [] => none
  | w :: word, c :: t => if w = c then after? word t else none

/-- A code point of a text, or a unit of UTF-16 that an escape gives. -/
inductive Piece where
  | plain (c : CodePoint)
  | unit (n : Nat)

def unit? (a b c d : CodePoint) : Option Nat :=
  match Hex.digitValue? a, Hex.digitValue? b, Hex.digitValue? c, Hex.digitValue? d with
  | some a, some b, some c, some d => some (((a * 16 + b) * 16 + c) * 16 + d)
  | _, _, _, _ => none

/-- What a code point after a backslash stands for. -/
def namedEscape? (c : CodePoint) : Option CodePoint :=
  if c = '"' ∨ c = '\\' ∨ c = '/' then some c
  else if c = 'b' then some 0x08
  else if c = 'f' then some 0x0C
  else if c = 'n' then some 0x0A
  else if c = 'r' then some 0x0D
  else if c = 't' then some 0x09
  else none

/-- The pieces up to the closing quote, and the text behind it. -/
def pieces? : Text → Option (List Piece × Text)
  | [] => none
  | c :: rest =>
    if c = '"' then some ([], rest)
    else if c = '\\' then
      match rest with
      | [] => none
      | e :: rest₁ =>
        if e = 'u' then
          match rest₁ with
          | a :: b :: c :: d :: rest₂ =>
            match unit? a b c d with
            | some n => (pieces? rest₂).map fun (found, rest) => (.unit n :: found, rest)
            | none => none
          | _ => none
        else
          match namedEscape? e with
          | some c => (pieces? rest₁).map fun (found, rest) => (.plain c :: found, rest)
          | none => none
    else if c.val < 0x20 then none
    else (pieces? rest).map fun (found, rest) => (.plain c :: found, rest)

def isHigh (n : Nat) : Bool := 0xD800 ≤ n && n ≤ 0xDBFF

def isLow (n : Nat) : Bool := 0xDC00 ≤ n && n ≤ 0xDFFF

def pair (high low : Nat) : CodePoint := .ofNat (0x10000 + (high - 0xD800) * 0x400 + (low - 0xDC00))

/-- The text of pieces. A high and a low unit side by side are one code point; a unit without its
partner stays a surrogate. -/
def assemble : List Piece → Text
  | [] => []
  | .plain c :: rest => c :: assemble rest
  | .unit n :: rest =>
    match rest with
    | .unit m :: rest₁ =>
      if isHigh n && isLow m then pair n m :: assemble rest₁
      else .ofNat n :: assemble (.unit m :: rest₁)
    | rest => .ofNat n :: assemble rest

/-- A text whose opening quote has been read. -/
def text? (t : Text) : Option (Text × Text) :=
  (pieces? t).map fun (found, rest) => (assemble found, rest)

def digitsValue (digits : Text) : Nat := digits.foldl (fun n c => 10 * n + (c.val - 0x30)) 0

/-- The digits of the whole part: a single zero, or digits without a leading zero. -/
def whole? : Text → Option (Text × Text)
  | [] => none
  | c :: rest =>
    if c = '0' then some (['0'], rest)
    else
      let digits := (c :: rest).takeWhile CodePoint.isAsciiDigit
      if digits.isEmpty then none else some (digits, (c :: rest).drop digits.length)

/-- The digits after a point. A point without digits is no part of the number. -/
def fraction : Text → Option Text × Text
  | [] => (none, [])
  | c :: rest =>
    let digits := rest.takeWhile CodePoint.isAsciiDigit
    if c = '.' ∧ digits ≠ [] then (some digits, rest.drop digits.length)
    else (none, c :: rest)

/-- The exponent after an `e`. An `e` without digits is no part of the number. -/
def exponent : Text → Option Int × Text
  | [] => (none, [])
  | c :: rest =>
    if c = 'e' ∨ c = 'E' then
      let (negative, body) := Integer.splitSign rest
      let digits := body.takeWhile CodePoint.isAsciiDigit
      if digits.isEmpty then (none, c :: rest)
      else
        let value : Int := digitsValue digits
        (some (if negative then -value else value), body.drop digits.length)
    else (none, c :: rest)

/-- A number: an integer within the limit of digits, or a decimal rounded to the nearest value. -/
def number? (t : Text) : Option (Scalar × Text) :=
  let (negative, body) := match t with
    | [] => (false, [])
    | c :: rest => if c = '-' then (true, rest) else (false, c :: rest)
  match whole? body with
  | none => none
  | some (digits, rest) =>
    match fraction rest with
    | (places, rest) =>
      match exponent rest with
      | (power, rest) =>
        if places.isNone && power.isNone then
          if Integer.maxDigits < digits.length then none
          else
            let value : Int := digitsValue digits
            some (.integer (if negative then -value else value), rest)
        else
          let places := places.getD []
          some (.real (.ofDecimal negative (digitsValue (digits ++ places))
            (power.getD 0 - places.length)), rest)

def words : List (Text × Scalar) :=
  [("null", .null), ("true", .truth true), ("false", .truth false), ("NaN", .real .nan),
    ("Infinity", .real (.infinite false)), ("-Infinity", .real (.infinite true))]

def word? (t : Text) : Option (Scalar × Text) :=
  words.findSome? fun (word, value) => (after? word t).map (value, ·)

/-- Items up to the closing bracket, each followed by a comma or the bracket. The text is as long as
its items are many, so its length bounds them. -/
def itemsUpTo (close : CodePoint) (item : Text → Except Fault (α × Text)) :
    Nat → Text → Except Fault (List α × Text)
  | 0, _ => .error .malformed
  | bound + 1, t => do
    let (first, rest) ← item t
    match skipSpace rest with
    | [] => .error .malformed
    | c :: rest =>
      if c = close then .ok ([first], rest)
      else if c = ',' then
        let (others, rest) ← itemsUpTo close item bound (skipSpace rest)
        .ok (first :: others, rest)
      else .error .malformed

def bracketed (close : CodePoint) (item : Text → Except Fault (α × Text)) (t : Text) :
    Except Fault (List α × Text) :=
  match skipSpace t with
  | [] => .error .malformed
  | c :: rest =>
    if c = close then .ok ([], rest) else itemsUpTo close item (c :: rest).length (c :: rest)

def member (value : Text → Except Fault (Json × Text)) : Text → Except Fault ((Text × Json) × Text)
  | [] => .error .malformed
  | c :: rest =>
    if c = '"' then
      match text? rest with
      | none => .error .malformed
      | some (name, rest) =>
        match skipSpace rest with
        | [] => .error .malformed
        | c :: rest =>
          if c = ':' then do
            let (v, rest) ← value (skipSpace rest)
            .ok ((name, v), rest)
          else .error .malformed
    else .error .malformed

/-- A value at the beginning of a text, with brackets to a depth. -/
def value : (depth : Nat) → Text → Except Fault (Json × Text)
  | _, [] => .error .malformed
  | depth, c :: rest =>
    if c = '"' then
      match text? rest with
      | some (t, rest) => .ok (.text t, rest)
      | none => .error .malformed
    else if c = '[' then
      match depth with
      | 0 => .error (.tooDeep .array)
      | depth + 1 => do
        let (items, rest) ← bracketed ']' (value depth) rest
        .ok (.array items, rest)
    else if c = '{' then
      match depth with
      | 0 => .error (.tooDeep .object)
      | depth + 1 => do
        let (members, rest) ← bracketed '}' (member (value depth)) rest
        .ok (.object (Members.ofList members), rest)
    else
      match word? (c :: rest) with
      | some (s, rest) => .ok (.scalar s, rest)
      | none =>
        match number? (c :: rest) with
        | some (s, rest) => .ok (.scalar s, rest)
        | none => .error .malformed

end Reader

/-- The value of a text that holds nothing else but white space, with brackets to a depth. -/
def read (depth : Nat) (t : Text) : Except Reader.Fault Json := do
  let (v, rest) ← Reader.value depth (Reader.skipSpace t)
  if (Reader.skipSpace rest).isEmpty then .ok v else .error .malformed

end BlobVault.Json
