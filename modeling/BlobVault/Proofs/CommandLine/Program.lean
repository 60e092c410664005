import BlobVault.CommandLine.Program
import BlobVault.Proofs.Vault.Report

/-! What a command line comes to: it runs one command with its settings, or it shows help or a mistake and
does nothing else. -/
namespace BlobVault.CommandLine

open BlobVault.Action (Keeps)

/-- The arguments that are gone on with: the options are read without a mistake, and no help is asked for. -/
def arguments? (options : List OptionSpec) (interspersed : Bool) (given : List Text) : Option Arguments :=
  match Arguments.read options interspersed given with
  | .error _ => none
  | .ok a => if a.has OptionSpec.helpFlag.name then none else some a

def settings? (defaults : Defaults) (c : Command) (given : List Text) : Option Settings :=
  (arguments? c.allOptions true given).bind fun a => (Settings.read defaults c.allOptions a).toOption

def chosen? (defaults : Defaults) (given : List Text) : Option (Command × Settings) :=
  match arguments? [OptionSpec.helpFlag] false given with
  | some ⟨_, name :: rest⟩ =>
    (Command.all.find? (·.name == name)).bind fun c => (settings? defaults c rest).map (c, ·)
  | _ => none

theorem withArguments_of_some {options : List OptionSpec} {interspersed : Bool} {given : List Text}
    {a : Arguments} (found : arguments? options interspersed given = some a) (f : Frame)
    (next : Arguments → Action Int) : withArguments f options interspersed given next = next a := by
  unfold arguments? at found
  split at found
  · cases found
  · rename_i read
    split at found
    · cases found
    · rename_i helpless
      cases found
      simp only [withArguments, read, if_neg helpless]

theorem runCommand_of_some {environment : Environment} {c : Command} {given : List Text}
    {settings : Settings} (found : settings? environment.defaults c given = some settings) :
    runCommand environment c given = c.run environment settings := by
  obtain ⟨a, arguments, read⟩ := Option.bind_eq_some_iff.mp found
  unfold runCommand
  dsimp only
  rw [withArguments_of_some arguments]
  cases settled : Settings.read environment.defaults c.allOptions a with
  | error e =>
    rw [settled] at read
    cases read
  | ok s =>
    rw [settled] at read
    cases read
    rfl

/-- A command line runs the command that is chosen. -/
theorem run_of_chosen {environment : Environment} {given : List Text} {c : Command} {settings : Settings}
    (found : chosen? environment.defaults given = some (c, settings)) :
    run environment given = c.run environment settings ∧ c ∈ Command.all := by
  unfold chosen? at found
  split at found
  · rename_i name rest arguments
    obtain ⟨known, named, settled⟩ := Option.bind_eq_some_iff.mp found
    obtain ⟨s, valued, same⟩ := Option.map_eq_some_iff.mp settled
    cases same
    have some : ¬ given.isEmpty = true := by
      intro none
      rw [List.isEmpty_iff.mp none] at arguments
      cases arguments
    refine ⟨?_, List.mem_of_find?_eq_some named⟩
    rw [run, if_neg some, withProgramArguments, withArguments_of_some arguments]
    simp only [runNamed, named]
    exact runCommand_of_some valued
  · cases found

section Quiet

variable {view : World → γ} (quiet : ∀ w shown, view (World.tell w shown) = view w)
  (spoken : ∀ w shown, view (World.printed w shown) = view w)
include quiet

theorem misuse_keeps (f : Frame) (e : UsageError) : Keeps view (f.misuse e) := by
  unfold Frame.misuse
  dsimp only
  split
  · refine .bind (.report quiet _) fun _ => ?_
    refine .bind (.report quiet _) fun _ => ?_
    refine .bind (.report quiet _) fun _ => ?_
    refine .bind (.report quiet _) fun _ => ?_
    exact .pure _
  · refine .bind (.report quiet _) fun _ => ?_
    exact .pure _

include spoken

/-- Without arguments to go on with, only help or a mistake is shown. -/
theorem withArguments_keeps {options : List OptionSpec} {interspersed : Bool} {given : List Text}
    {next : Arguments → Action Int} (f : Frame)
    (later : ∀ a, arguments? options interspersed given = some a → Keeps view (next a)) :
    Keeps view (withArguments f options interspersed given next) := by
  cases found : arguments? options interspersed given with
  | some a =>
    rw [withArguments_of_some found]
    exact later a found
  | none =>
    cases read : Arguments.read options interspersed given with
    | error e =>
      simp only [withArguments, read]
      exact misuse_keeps quiet f e
    | ok a =>
      simp only [arguments?, read] at found
      simp only [withArguments, read]
      split at found
      · rename_i help
        rw [if_pos help]
        exact .bind (.forM (fun line => .print spoken line) _) fun _ => .pure _
      · cases found

/-- A command line that chooses no command keeps everything but what is shown. -/
theorem run_keeps {environment : Environment} {given : List Text}
    (none : chosen? environment.defaults given = none) : Keeps view (run environment given) := by
  unfold run
  split
  · exact .bind (.forM (fun line => .report quiet line) _) fun _ => .pure _
  · refine withArguments_keeps quiet spoken _ fun a arguments => ?_
    obtain ⟨occurrences, others⟩ := a
    cases others with
    | nil => exact misuse_keeps quiet _ _
    | cons name rest =>
      simp only [chosen?, arguments] at none
      simp only [runNamed]
      split
      · rename_i c named
        rw [named, Option.bind_some, Option.map_eq_none_iff] at none
        refine withArguments_keeps quiet spoken _ fun a found => ?_
        rw [settings?, found, Option.bind_some] at none
        split
        · exact misuse_keeps quiet _ _
        · rename_i settled
          rw [settled] at none
          cases none
      · exact withArguments_keeps quiet spoken _ fun _ _ => misuse_keeps quiet _ _

end Quiet
end BlobVault.CommandLine

namespace BlobVault

namespace Defaults

/-- What a variable asks for: the integer that it holds, or the standard value if it is not set. -/
def Asks (vars : Variables) (name : Text) (standard i : Int) : Prop :=
  match vars.lookup name with
  | none => i = standard
  | some t => Integer.read t = .ok i

variable {vars : Variables}

theorem setting_eq_ok_iff {name : Text} {standard i : Int} :
    setting vars name standard = .ok i ↔ Asks vars name standard i := by
  unfold setting Asks
  cases vars.lookup name with
  | none =>
    dsimp only
    rw [Except.ok.injEq, eq_comm]
  | some t =>
    dsimp only
    cases Integer.read t with
    | ok j => rw [Except.ok.injEq, Except.ok.injEq]
    | error fault => exact iff_of_false nofun nofun

theorem setting_fails {name : Text} {standard : Int} {cause : Failure}
    (failed : setting vars name standard = .error cause) : ∃ details, cause = .crash .value details := by
  unfold setting at failed
  split at failed
  · cases failed
  · split at failed
    · cases failed
    · rename_i fault _
      cases failed
      cases fault <;> exact ⟨_, rfl⟩

theorem load_eq_ok_iff {defaults : Defaults} :
    load vars = .ok defaults ↔
      Asks vars "LAZARUS_VAULT_EPOCHS" 1 defaults.storageEpochs ∧
        Asks vars "LAZARUS_VAULT_HTTP_TIMEOUT" 300 defaults.requestTimeout := by
  obtain ⟨epochs, timeout⟩ := defaults
  rw [← setting_eq_ok_iff, ← setting_eq_ok_iff]
  simp only [load, bind_eq_ok_iff, Except.ok.injEq, mk.injEq]
  constructor
  · rintro ⟨_, epochs, _, timeout, rfl, rfl⟩
    exact ⟨epochs, timeout⟩
  · rintro ⟨epochs, timeout⟩
    exact ⟨_, epochs, _, timeout, rfl, rfl⟩

theorem load_fails {cause : Failure} (failed : load vars = .error cause) :
    ∃ details, cause = .crash .value details := by
  unfold load at failed
  cases epochs : setting vars epochsVariable standard.storageEpochs with
  | error fault =>
    rw [epochs] at failed
    cases failed
    exact setting_fails epochs
  | ok i =>
    cases timeout : setting vars timeoutVariable standard.requestTimeout with
    | error fault =>
      rw [epochs, timeout] at failed
      cases failed
      exact setting_fails timeout
    | ok j =>
      rw [epochs, timeout] at failed
      cases failed

end Defaults

theorem CommandLine.start_of_loaded {readDepth : Nat} {vars : Variables} {environment : Environment}
    (loaded : Environment.load readDepth vars = .ok environment) (arguments : List Text) :
    start readDepth vars arguments = run environment arguments := by
  rw [start, loaded]
  rfl

/-- The program runs its command line with the values that the variables ask for. If one of them asks for none,
it ends before it has done anything. -/
theorem CommandLine.start_cases (readDepth : Nat) (vars : Variables) (arguments : List Text) :
    (∃ epochs timeout, Defaults.Asks vars "LAZARUS_VAULT_EPOCHS" 1 epochs ∧
      Defaults.Asks vars "LAZARUS_VAULT_HTTP_TIMEOUT" 300 timeout ∧
      start readDepth vars arguments = run ⟨vars, ⟨epochs, timeout⟩, readDepth⟩ arguments) ∨
    (¬ ∃ epochs timeout, Defaults.Asks vars "LAZARUS_VAULT_EPOCHS" 1 epochs ∧
      Defaults.Asks vars "LAZARUS_VAULT_HTTP_TIMEOUT" 300 timeout) ∧
      ∃ details, ∀ w, (start readDepth vars arguments).run w = (.error (.crash .value details), w) := by
  cases loaded : Defaults.load vars with
  | ok defaults =>
    obtain ⟨epochs, timeout⟩ := Defaults.load_eq_ok_iff.mp loaded
    refine .inl ⟨_, _, epochs, timeout, start_of_loaded ?_ arguments⟩
    rw [Environment.load, loaded]
    rfl
  | error cause =>
    obtain ⟨details, rfl⟩ := Defaults.load_fails loaded
    refine .inr ⟨?_, details, fun w => ?_⟩
    · rintro ⟨epochs, timeout, asked⟩
      have found : Defaults.load vars = .ok ⟨epochs, timeout⟩ := Defaults.load_eq_ok_iff.mpr asked
      cases loaded.symm.trans found
    · rw [start, Environment.load, loaded]
      rfl

end BlobVault
