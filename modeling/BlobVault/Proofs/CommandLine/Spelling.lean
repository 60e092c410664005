import BlobVault.CommandLine.Arguments

/-! The spellings of options. A value follows the name of its option, or it is attached to it by an equals
sign, and any text can be one. However options are spelled, reading gives them back in their order. -/
namespace BlobVault.CommandLine

structure Nameable (name : Text) : Prop where
  dashes : ∃ c rest, name = ('-' : CodePoint) :: ('-' : CodePoint) :: c :: rest
  plain : ('=' : CodePoint) ∉ name

theorem nameable_iff {name : Text} :
    Nameable name ↔ name.take 2 = Arguments.terminator ∧ 2 < name.length ∧ ('=' : CodePoint) ∉ name := by
  constructor
  · rintro ⟨⟨c, rest, rfl⟩, plain⟩
    exact ⟨rfl, by simp, plain⟩
  · rintro ⟨dashes, long, plain⟩
    refine ⟨?_, plain⟩
    match name, dashes, long with
    | a :: b :: c :: rest, dashes, _ =>
      obtain ⟨rfl, rfl⟩ : a = '-' ∧ b = '-' := by simpa [Arguments.terminator, Text.ofString] using dashes
      exact ⟨c, rest, rfl⟩

instance decidableNameable (name : Text) : Decidable (Nameable name) := decidable_of_iff' _ nameable_iff

inductive Spells (o : Occurrence) : List Text → Prop where
  | flag : o.spec.takesValue = false → o.value = [] → Spells o [o.spec.name]
  | apart : o.spec.takesValue = true → Spells o [o.spec.name, o.value]
  | attached : o.spec.takesValue = true → Spells o [o.spec.name ++ ('=' : CodePoint) :: o.value]

/-- A command line that spells options one after the other. -/
inductive Line : List Occurrence → List Text → Prop where
  | nil : Line [] []
  | cons {o : Occurrence} {others : List Occurrence} {front rest : List Text} :
      Spells o front → Line others rest → Line (o :: others) (front ++ rest)

namespace Arguments

section Name

variable {name : Text} (nameable : Nameable name)
include nameable

theorem begins_option (attached : Text) :
    name ++ attached ≠ terminator ∧ isOption (name ++ attached) = true := by
  obtain ⟨c, rest, rfl⟩ := nameable.dashes
  refine ⟨fun same => ?_, rfl⟩
  have short := congrArg List.length same
  simp [terminator, Text.ofString] at short

theorem takeWhile_name (t : Text) :
    (name ++ t).takeWhile (· != ('=' : CodePoint)) = name ++ t.takeWhile (· != ('=' : CodePoint)) := by
  apply List.takeWhile_append_of_pos
  intro c member
  rw [bne_iff_ne]
  rintro rfl
  exact nameable.plain member

theorem splitAttached_name : splitAttached name = (name, none) := by
  have whole := takeWhile_name nameable []
  rw [List.takeWhile_nil, List.append_nil] at whole
  simp only [splitAttached, whole, List.drop_length]

/-- The value begins behind the first equals sign, whatever it holds. -/
theorem splitAttached_attached (value : Text) :
    splitAttached (name ++ ('=' : CodePoint) :: value) = (name, some value) := by
  have front := takeWhile_name nameable (('=' : CodePoint) :: value)
  rw [List.takeWhile_cons_of_neg (by simp), List.append_nil] at front
  simp only [splitAttached, front, List.drop_left]

end Name

section Read

variable {options : List OptionSpec} {spec : OptionSpec} {argument : Text} {rest : List Text}
  (option : argument ≠ terminator ∧ isOption argument = true)
  (known : options.find? (·.name == spec.name) = some spec)
include option known

theorem read_flag (bare : spec.takesValue = false) (split : splitAttached argument = (spec.name, none)) :
    read options true (argument :: rest) = (read options true rest).map (·.addOption spec []) := by
  rw [read.eq_def]
  simp [option, split, known, bare]

theorem read_attached (taking : spec.takesValue = true) {value : Text}
    (split : splitAttached argument = (spec.name, some value)) :
    read options true (argument :: rest) = (read options true rest).map (·.addOption spec value) := by
  rw [read.eq_def]
  simp [option, split, known, taking]

theorem read_apart (taking : spec.takesValue = true) (split : splitAttached argument = (spec.name, none))
    (value : Text) :
    read options true (argument :: value :: rest) =
      (read options true rest).map (·.addOption spec value) := by
  rw [read.eq_def]
  simp [option, split, known, taking]

end Read

/-- An option in front of a command line is one more option in front, in each of its spellings. -/
theorem read_spelled {options : List OptionSpec} {o : Occurrence} {front : List Text}
    (nameable : Nameable o.spec.name) (known : options.find? (·.name == o.spec.name) = some o.spec)
    (spelled : Spells o front) (rest : List Text) :
    read options true (front ++ rest) = (read options true rest).map (·.addOption o.spec o.value) := by
  have alone := begins_option nameable []
  rw [List.append_nil] at alone
  cases spelled with
  | flag bare none =>
    rw [none]
    exact read_flag alone known bare (splitAttached_name nameable)
  | apart taking => exact read_apart alone known taking (splitAttached_name nameable) o.value
  | attached taking =>
    have option := begins_option nameable (('=' : CodePoint) :: o.value)
    exact read_attached option known taking (splitAttached_attached nameable o.value)

/-- Reading gives back the options that a command line spells. -/
theorem read_line {options : List OptionSpec} {given : List Occurrence} {line : List Text}
    (spelled : Line given line) (nameable : ∀ o ∈ given, Nameable o.spec.name)
    (known : ∀ o ∈ given, options.find? (·.name == o.spec.name) = some o.spec) :
    read options true line = .ok ⟨given, []⟩ := by
  induction spelled with
  | nil => rfl
  | cons here _ ih =>
    obtain ⟨first, others⟩ := List.forall_mem_cons.mp nameable
    obtain ⟨found, later⟩ := List.forall_mem_cons.mp known
    rw [read_spelled first found here, ih others later]
    rfl

end Arguments
end BlobVault.CommandLine
