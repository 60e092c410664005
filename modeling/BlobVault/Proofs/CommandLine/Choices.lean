import BlobVault.CommandLine.Command
import BlobVault.Proofs.Action
import BlobVault.Proofs.CommandLine.Spelling
import BlobVault.Proofs.Text.Numeral

/-! What can be chosen for a command: options with values that suit them, each at most once and in any order,
and none left out that the command needs. The settings of the command say just what was chosen. -/
namespace BlobVault.CommandLine

open Json.Reader (digitsValue)

namespace Occurrence

def meaning (o : Occurrence) : Value :=
  match o.spec.kind with
  | .flag => .on
  | .text => .text o.value
  | .integer .. => .integer (digitsValue o.value)

/-- The value suits the option: every text does where a text is taken, and where an integer is taken it is a
numeral in the range of the option. -/
def Suits (o : Occurrence) : Prop :=
  match o.spec.kind with
  | .flag => o.value = []
  | .text => True
  | .integer range _ => Integer.Decimal o.value ∧ range.contains (digitsValue o.value) = true

end Occurrence

structure Choices (c : Command) where
  given : List Occurrence
  known : ∀ o ∈ given, o.spec ∈ c.options
  distinct : (given.map (·.spec.name)).Nodup
  complete : ∀ spec ∈ c.options, spec.required = true → spec.name ∈ given.map (·.spec.name)
  suits : ∀ o ∈ given, o.Suits

def Choices.settings {c : Command} (g : Choices c) : Settings :=
  g.given.map fun o => (o.spec.name, o.meaning)

/-- An item is found by its key when no other item has that key. -/
theorem find?_of_distinct {key : α → Text} {items : List α} (distinct : (items.map key).Nodup) {x : α}
    (member : x ∈ items) : items.find? (key · == key x) = some x := by
  induction items with
  | nil => cases member
  | cons first rest ih =>
    obtain ⟨fresh, later⟩ := List.nodup_cons.mp distinct
    rcases List.mem_cons.mp member with rfl | behind
    · exact List.find?_cons_of_pos (beq_self_eq_true _)
    · have apart : key first ≠ key x := fun same => fresh (same ▸ List.mem_map_of_mem behind)
      rw [List.find?_cons_of_neg (by simpa using apart)]
      exact ih later behind

theorem lookup_of_distinct {key : α → Text} {value : α → β} {items : List α}
    (distinct : (items.map key).Nodup) {x : α} (member : x ∈ items) :
    (items.map fun x => (key x, value x)).lookup (key x) = some (value x) := by
  induction items with
  | nil => cases member
  | cons first rest ih =>
    obtain ⟨fresh, later⟩ := List.nodup_cons.mp distinct
    rw [List.map_cons, List.lookup_cons]
    rcases List.mem_cons.mp member with rfl | behind
    · simp
    · have apart : key x ≠ key first := fun same => fresh (same ▸ List.mem_map_of_mem behind)
      rw [beq_false_of_ne apart]
      exact ih later behind

namespace Settings

variable {defaults : Defaults} {a : Arguments}

/-- The settings of options that each have the value that is assigned to their name. -/
theorem ofOptions_lookup (assigned : Text → Option Value) {options : List OptionSpec}
    (each : ∀ spec ∈ options, value? defaults a spec = .ok (assigned spec.name)) :
    ∃ s, ofOptions defaults a options = .ok s ∧
      ∀ name v, s.lookup name = some v ↔ name ∈ options.map (·.name) ∧ assigned name = some v := by
  induction options with
  | nil => exact ⟨[], rfl, fun _ _ => ⟨nofun, nofun⟩⟩
  | cons spec rest ih =>
    obtain ⟨here, later⟩ := List.forall_mem_cons.mp each
    obtain ⟨s, read, found⟩ := ih later
    rw [ofOptions, here, read]
    cases value : assigned spec.name with
    | none =>
      refine ⟨s, rfl, fun name v => ?_⟩
      rw [List.map_cons, List.mem_cons, found]
      by_cases same : name = spec.name
      · subst same
        simp [value]
      · simp [same]
    | some chosen =>
      refine ⟨(spec.name, chosen) :: s, rfl, fun name v => ?_⟩
      rw [List.map_cons, List.mem_cons, List.lookup_cons]
      by_cases same : name = spec.name
      · subst same
        simp [value]
      · rw [beq_false_of_ne same]
        simp [found, same]

/-- The only mistake that is made among options is the mistake of them all. -/
theorem ofOptions_error {e : UsageError} {options : List OptionSpec}
    (each : ∀ spec ∈ options, (∃ v, value? defaults a spec = .ok v) ∨ value? defaults a spec = .error e)
    (made : ∃ spec ∈ options, value? defaults a spec = .error e) :
    ofOptions defaults a options = .error e := by
  induction options with
  | nil =>
    obtain ⟨spec, member, -⟩ := made
    cases member
  | cons spec rest ih =>
    obtain ⟨here, later⟩ := List.forall_mem_cons.mp each
    rcases here with ⟨v, read⟩ | mistaken
    · have behind : ∃ spec ∈ rest, value? defaults a spec = .error e := by
        obtain ⟨other, member, mistaken⟩ := made
        rcases List.mem_cons.mp member with rfl | behind
        · cases read.symm.trans mistaken
        · exact ⟨other, behind, mistaken⟩
      rw [ofOptions, read, ih later behind]
      rfl
    · rw [ofOptions, mistaken]
      rfl

end Settings

namespace Choices

variable {c : Command} (g : Choices c)

theorem lastText?_of_given {o : Occurrence} (member : o ∈ g.given) :
    Arguments.lastText? ⟨g.given, []⟩ o.spec.name = some o.value := by
  have distinct : (g.given.reverse.map (·.spec.name)).Nodup := by
    rw [List.map_reverse]
    exact (List.reverse_perm _).nodup_iff.mpr g.distinct
  rw [Arguments.lastText?, find?_of_distinct distinct (List.mem_reverse.mpr member)]
  rfl

theorem lookup_of_absent {name : Text} (absent : name ∉ g.given.map (·.spec.name)) :
    g.settings.lookup name = none := by
  rw [List.lookup_eq_none_iff]
  intro entry member
  obtain ⟨o, given, rfl⟩ := List.mem_map.mp member
  exact bne_iff_ne.mpr fun same => absent (List.mem_map.mpr ⟨o, given, same.symm⟩)

theorem value?_of_given {o : Occurrence} (member : o ∈ g.given) (defaults : Defaults) :
    Settings.value? defaults ⟨g.given, []⟩ o.spec = .ok (g.settings.lookup o.spec.name) := by
  have found : g.settings.lookup o.spec.name = some o.meaning := lookup_of_distinct g.distinct member
  have suits := g.suits o member
  unfold Settings.value?
  rw [g.lastText?_of_given member, found]
  unfold Occurrence.Suits at suits
  unfold Occurrence.meaning
  cases kind : o.spec.kind with
  | flag | text => rfl
  | integer range fallback =>
    rw [kind] at suits
    obtain ⟨numeral, inside⟩ := suits
    simp only [Integer.read_of_decimal numeral, Settings.inRange, inside, if_true]
    rfl

/-- What an option that is left out comes to: its standard value may be out of range. -/
theorem value?_of_absent {spec : OptionSpec} (absent : spec.name ∉ g.given.map (·.spec.name))
    (optional : spec.required = false) (defaults : Defaults) :
    Settings.value? defaults ⟨g.given, []⟩ spec =
      match spec.kind with
      | .integer range fallback => (Settings.inRange spec range (fallback defaults)).map fun _ => none
      | _ => .ok none := by
  have never : Arguments.lastText? ⟨g.given, []⟩ spec.name = none := by
    rw [Arguments.lastText?, Option.map_eq_none_iff, List.find?_eq_none]
    intro o member same
    exact absent (List.mem_map.mpr ⟨o, List.mem_reverse.mp member, beq_iff_eq.mp same⟩)
  rw [Settings.value?, never]
  cases kind : spec.kind with
  | flag | text | integer => simp only [optional, Bool.false_eq_true, if_false]

end Choices

/-- An option holds by itself: its standard value is in range, or it needs none. -/
def OptionSpec.Holds (defaults : Defaults) (spec : OptionSpec) : Prop :=
  match spec.kind with
  | .integer range fallback => range.contains (fallback defaults) = true
  | _ => True

/-- Asking for help takes no value, so it holds with the options of any command. -/
theorem OptionSpec.holds_of_declared {c : Command} {defaults : Defaults} {spec : OptionSpec}
    (declared : spec ∈ c.allOptions) (holds : spec ∈ c.options → spec.Holds defaults) : spec.Holds defaults := by
  rcases List.mem_append.mp declared with own | help
  · exact holds own
  · rw [List.mem_singleton.mp help]
    trivial

namespace Choices

variable {c : Command} (g : Choices c) (named : (c.allOptions.map (·.name)).Nodup)
include named

/-- An option that is given, or holds by itself, has the value that was chosen for it, if any. -/
theorem value?_eq {defaults : Defaults} {spec : OptionSpec} (declared : spec ∈ c.allOptions)
    (holds : spec.name ∉ g.given.map (·.spec.name) → spec.Holds defaults) :
    Settings.value? defaults ⟨g.given, []⟩ spec = .ok (g.settings.lookup spec.name) := by
  by_cases chosen : spec.name ∈ g.given.map (·.spec.name)
  · obtain ⟨o, member, same⟩ := List.mem_map.mp chosen
    have found := find?_of_distinct named (List.mem_append_left _ (g.known o member))
    rw [same, find?_of_distinct named declared] at found
    cases Option.some.inj found
    exact g.value?_of_given member defaults
  · have optional : spec.required = false := by
      rcases List.mem_append.mp declared with own | help
      · exact Bool.eq_false_iff.mpr fun required => chosen (g.complete spec own required)
      · rw [List.mem_singleton.mp help]
        rfl
    have within := holds chosen
    unfold OptionSpec.Holds at within
    rw [g.value?_of_absent chosen optional, g.lookup_of_absent chosen]
    split
    · rename_i range fallback kind
      rw [kind] at within
      rw [Settings.inRange, if_pos within]
      rfl
    · rfl

/-- The settings that are read hold exactly what was chosen, if the options that are left out hold by
themselves. -/
theorem read_settings {defaults : Defaults}
    (holds : ∀ spec ∈ c.options, spec.name ∉ g.given.map (·.spec.name) → spec.Holds defaults) :
    ∃ s, Settings.read defaults c.allOptions ⟨g.given, []⟩ = .ok s ∧
      ∀ name, s.lookup name = g.settings.lookup name := by
  have sorted : (Settings.order c.allOptions ⟨g.given, []⟩).Perm c.allOptions := List.mergeSort_perm _ _
  have each (spec : OptionSpec) (member : spec ∈ Settings.order c.allOptions ⟨g.given, []⟩) :
      Settings.value? defaults ⟨g.given, []⟩ spec = .ok (g.settings.lookup spec.name) := by
    have declared := sorted.mem_iff.mp member
    exact g.value?_eq named declared fun absent =>
      OptionSpec.holds_of_declared declared fun own => holds spec own absent
  obtain ⟨s, read, found⟩ := Settings.ofOptions_lookup (fun name => g.settings.lookup name) each
  refine ⟨s, ?_, fun name => Option.ext fun v => (found name v).trans ⟨And.right, fun chosen => ⟨?_, chosen⟩⟩⟩
  · rw [Settings.read, read]
    rfl
  · by_cases given : name ∈ g.given.map (·.spec.name)
    · obtain ⟨o, member, rfl⟩ := List.mem_map.mp given
      apply List.mem_map_of_mem
      exact sorted.mem_iff.mpr (List.mem_append_left _ (g.known o member))
    · rw [g.lookup_of_absent given] at chosen
      cases chosen

/-- A standard value that is out of range is the mistake of a command line that leaves its option out, when the
other options hold by themselves. -/
theorem read_outOfRange {defaults : Defaults} {spec : OptionSpec} {range : Range} {fallback : Defaults → Int}
    (own : spec ∈ c.options) (absent : spec.name ∉ g.given.map (·.spec.name))
    (kind : spec.kind = .integer range fallback) (outside : range.contains (fallback defaults) = false)
    (holds : ∀ other ∈ c.options, other ≠ spec → other.Holds defaults) :
    Settings.read defaults c.allOptions ⟨g.given, []⟩ =
      .error (.outOfRange spec.name (fallback defaults) range) := by
  have sorted : (Settings.order c.allOptions ⟨g.given, []⟩).Perm c.allOptions := List.mergeSort_perm _ _
  have optional : spec.required = false :=
    Bool.eq_false_iff.mpr fun required => absent (g.complete spec own required)
  have mistaken : Settings.value? defaults ⟨g.given, []⟩ spec =
      .error (.outOfRange spec.name (fallback defaults) range) := by
    rw [g.value?_of_absent absent optional, kind]
    simp only [Settings.inRange, outside, Bool.false_eq_true, if_false]
    rfl
  have failed : Settings.ofOptions defaults ⟨g.given, []⟩ (Settings.order c.allOptions ⟨g.given, []⟩) =
      .error (.outOfRange spec.name (fallback defaults) range) := by
    apply Settings.ofOptions_error
    · intro other member
      have declared := sorted.mem_iff.mp member
      by_cases same : other = spec
      · exact .inr (same ▸ mistaken)
      · refine .inl ⟨_, g.value?_eq named declared fun _ => ?_⟩
        exact OptionSpec.holds_of_declared declared fun own => holds other own same
    · exact ⟨spec, sorted.mem_iff.mpr (List.mem_append_left _ own), mistaken⟩
  rw [Settings.read, failed]
  rfl

end Choices
end BlobVault.CommandLine
