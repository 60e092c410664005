import BlobVault.Proofs.CommandLine.Choices
import BlobVault.Proofs.CommandLine.Program
import BlobVault.Proofs.Json.Shown
import BlobVault.Proofs.Vault.Storing

/-! The command line as a front of the operations. Whatever is chosen for a command, in whatever order and
spelling, the command line does what the operation does with the chosen values. -/
namespace BlobVault.CommandLine

structure WellNamed (c : Command) : Prop where
  found : Command.all.find? (·.name == c.name) = some c
  bare : Arguments.isOption c.name = false ∧ c.name ≠ Arguments.terminator
  distinct : (c.allOptions.map (·.name)).Nodup
  nameable : ∀ spec ∈ c.options, Nameable spec.name

theorem wellNamed_of_listed {c : Command} (listed : c ∈ Command.all) : WellNamed c := by
  simp only [Command.all, List.mem_cons, List.not_mem_nil, or_false] at listed
  rcases listed with rfl | rfl | rfl | rfl | rfl <;>
    exact ⟨rfl, by decide, by decide +kernel, by decide +kernel⟩

/-- The options of a line that spells choices are read as they were given. -/
theorem arguments?_of_line {c : Command} (well : WellNamed c) (g : Choices c) {line : List Text}
    (spelled : Line g.given line) : arguments? c.allOptions true line = some ⟨g.given, []⟩ := by
  have declared (o : Occurrence) (member : o ∈ g.given) : o.spec ∈ c.allOptions :=
    List.mem_append_left _ (g.known o member)
  have read : Arguments.read c.allOptions true line = .ok ⟨g.given, []⟩ :=
    Arguments.read_line spelled (fun o member => well.nameable _ (g.known o member)) fun o member =>
      find?_of_distinct well.distinct (declared o member)
  have helpless : Arguments.has ⟨g.given, []⟩ OptionSpec.helpFlag.name = false := by
    rw [Arguments.has, List.any_eq_false]
    intro o member same
    have distinct := well.distinct
    rw [Command.allOptions, List.map_append, List.nodup_append] at distinct
    exact distinct.2.2 _ (List.mem_map_of_mem (g.known o member)) _ (List.mem_singleton_self _)
      (beq_iff_eq.mp same)
  rw [arguments?, read]
  simp only [helpless]
  exact if_neg Bool.false_ne_true

/-- A command line that begins with the name of a command runs it on the rest. -/
theorem run_of_named {c : Command} (well : WellNamed c) (environment : Environment) (line : List Text) :
    run environment (c.name :: line) = runCommand environment c line := by
  have begins : Arguments.read [OptionSpec.helpFlag] false (c.name :: line) = .ok ⟨[], c.name :: line⟩ := by
    rw [Arguments.read.eq_def]
    simp [well.bare]
  have named : arguments? [OptionSpec.helpFlag] false (c.name :: line) = some ⟨[], c.name :: line⟩ := by
    rw [arguments?, begins]
    rfl
  rw [run, if_neg (by simp), withProgramArguments, withArguments_of_some named]
  simp only [runNamed, well.found]

/-- A command line with choices runs its command with them, if the options that are left out hold by
themselves. -/
theorem run_of_line {c : Command} (listed : c ∈ Command.all) (g : Choices c) {line : List Text}
    (spelled : Line g.given line) {environment : Environment}
    (holds : ∀ spec ∈ c.options, spec.name ∉ g.given.map (·.spec.name) → spec.Holds environment.defaults) :
    ∃ s, (∀ name, s.lookup name = g.settings.lookup name) ∧
      run environment (c.name :: line) = c.run environment s := by
  have well := wellNamed_of_listed listed
  obtain ⟨s, settled, same⟩ := g.read_settings well.distinct holds
  refine ⟨s, same, ?_⟩
  rw [run_of_named well]
  apply runCommand_of_some
  rw [settings?, arguments?_of_line well g spelled, Option.bind_some, settled]
  rfl

/-- A mistake in the settings is reported, and nothing else is done. -/
theorem run_of_mistake {c : Command} (listed : c ∈ Command.all) (g : Choices c) {line : List Text}
    (spelled : Line g.given line) {environment : Environment} {e : UsageError}
    (mistaken : Settings.read environment.defaults c.allOptions ⟨g.given, []⟩ = .error e) :
    run environment (c.name :: line) = (Frame.ofCommand c).misuse e := by
  have well := wellNamed_of_listed listed
  rw [run_of_named well, runCommand]
  rw [withArguments_of_some (arguments?_of_line well g spelled)]
  simp only [mistaken]

section Congr

variable {s t : Settings} (same : ∀ name, s.lookup name = t.lookup name)
include same

theorem Settings.text_congr : s.text = t.text := by
  funext name
  rw [text, text, same]

theorem Settings.integer_congr : s.integer = t.integer := by
  funext name fallback
  rw [integer, integer, same]

theorem Settings.flag_congr : s.flag = t.flag := by
  funext name
  rw [flag, flag, same]

/-- A command asks its settings for values by their names. -/
theorem run_congr {c : Command} (listed : c ∈ Command.all) (environment : Environment) :
    c.run environment s = c.run environment t := by
  have text := Settings.text_congr same
  have integer := Settings.integer_congr same
  have flag := Settings.flag_congr same
  simp only [Command.all, List.mem_cons, List.not_mem_nil, or_false] at listed
  rcases listed with rfl | rfl | rfl | rfl | rfl <;>
    simp only [Command.decrypt, Command.encryptAndStore, Command.hashAudit, Command.signAudit,
      Command.verifyAudit, Settings.verbosity, Settings.transport, text, integer, flag]

end Congr

/-- In front of an operation: what returns passes unchanged, and an interruption becomes the exit code of a
command that was cancelled. Other failures pass as well. -/
structure Fronts (front operation : Action Int) (w : World) : Prop where
  returns : ∀ code left, operation.run w = (.ok code, left) → front.run w = (.ok code, left)
  interrupted : ∀ fault left, fault.kind = .interrupted → operation.run w = (.error (.fault fault), left) →
    front.run w = (.ok 130, left)
  fails : ∀ cause left, (∀ fault, cause = .fault fault → fault.kind ≠ .interrupted) →
    operation.run w = (.error cause, left) → front.run w = (.error cause, left)

theorem untilInterrupted_fronts (operation : Action Int) (w : World) :
    Fronts (untilInterrupted operation) operation w where
  returns code left ran := by
    rw [untilInterrupted, Action.run_bind, Action.run_attempt, ran]
    rfl
  interrupted fault left kind ran := by
    rw [untilInterrupted, Action.run_bind, Action.run_attempt, ran]
    simp only [kind, if_true]
    rfl
  fails cause left other ran := by
    rw [untilInterrupted, Action.run_bind, Action.run_attempt, ran]
    cases cause with
    | known e => rfl
    | fault f =>
      simp only [if_neg (other f rfl)]
      rfl

theorem Fronts.congr {front other operation : Action Int} {w : World} (same : other.run w = front.run w)
    (fronts : Fronts front operation w) : Fronts other operation w where
  returns code left ran := same.trans (fronts.returns code left ran)
  interrupted fault left kind ran := same.trans (fronts.interrupted fault left kind ran)
  fails cause left foreign ran := same.trans (fronts.fails cause left foreign ran)

structure NamesFile (w : World) (file : FilePath) : Prop where
  nameable : file.namingFault?.isSome = false
  nulless : file.holdsNul = false
  held : (w.files.read? file).isSome = true

theorem encryptAndStore_fronts (environment : Environment) (s : Settings) {w : World}
    (named : NamesFile w (.ofText (s.text "--file"))) :
    Fronts (Command.encryptAndStore.run environment s)
      (Store.command environment s.transport
        ⟨.ofText (s.text "--file"), s.integer "--epochs" environment.defaults.storageEpochs,
          s.verbosity⟩) w := by
  obtain ⟨content, held⟩ := Option.isSome_iff_exists.mp named.held
  have regular := Store.regularFile?_returns_iff.mpr ⟨rfl, named.nameable, named.nulless, held⟩
  refine .congr ?_ (untilInterrupted_fronts _ w)
  unfold Command.encryptAndStore
  dsimp only
  rw [Action.run_bind, regular]

def signingKey (environment : Environment) (given : Text) : Text :=
  if given = [] then (environment.vars.lookup ("LAZARUS_SIGNING_KEY" : Text)).getD [] else given

theorem signAudit_run (environment : Environment) (s : Settings) :
    Command.signAudit.run environment s =
      Evidence.sign s.verbosity
        ⟨s.text "--record-hash", signingKey environment (s.text "--private-key")⟩ := by
  simp only [Command.signAudit, signingKey, List.isEmpty_iff]
  rfl

theorem run_eq {c : Command} (listed : c ∈ Command.all) (g : Choices c) {line : List Text}
    (spelled : Line g.given line) {environment : Environment}
    (holds : ∀ spec ∈ c.options, spec.name ∉ g.given.map (·.spec.name) → spec.Holds environment.defaults) :
    run environment (c.name :: line) = c.run environment g.settings := by
  obtain ⟨s, same, ran⟩ := run_of_line listed g spelled holds
  rw [ran, run_congr same listed]

/-- Every option but the epochs holds by itself. -/
theorem holds_of_listed {c : Command} (listed : c ∈ Command.all) (defaults : Defaults) :
    ∀ spec ∈ c.options, spec = OptionSpec.epochs ∨ spec.Holds defaults := by
  simp only [Command.all, List.mem_cons, List.not_mem_nil, or_false] at listed
  rcases listed with rfl | rfl | rfl | rfl | rfl <;>
    simp [Command.decrypt, Command.encryptAndStore, Command.hashAudit, Command.signAudit,
      Command.verifyAudit, OptionSpec.Holds, OptionSpec.needed, OptionSpec.free, OptionSpec.flag,
      OptionSpec.verbose, OptionSpec.debug, OptionSpec.timeout, OptionSpec.noCheckCertificate, Range.contains]

/-- The commands that store nothing have no epochs. -/
theorem run_eq_of_other {c : Command} (listed : c ∈ Command.all)
    (other : OptionSpec.epochs.name ∉ c.options.map (·.name)) (g : Choices c) {line : List Text}
    (spelled : Line g.given line) (environment : Environment) :
    run environment (c.name :: line) = c.run environment g.settings := by
  refine run_eq listed g spelled fun spec own _ => ?_
  rcases holds_of_listed listed environment.defaults spec own with rfl | holds
  · exact absurd (List.mem_map_of_mem own) other
  · exact holds

theorem Choices.integer_of_absent {c : Command} (g : Choices c) {name : Text}
    (absent : name ∉ g.given.map (·.spec.name)) (fallback : Int) :
    g.settings.integer name fallback = fallback := by
  rw [Settings.integer, g.lookup_of_absent absent]

section Storing

theorem storing_listed : Command.encryptAndStore ∈ Command.all := .tail _ (.head _)

theorem epochs_own : OptionSpec.epochs ∈ Command.encryptAndStore.options :=
  .tail _ (.tail _ (.head _))

variable (g : Choices .encryptAndStore) {environment : Environment}

theorem epochs_of_absent (absent : OptionSpec.epochs.name ∉ g.given.map (·.spec.name)) (fallback : Int) :
    g.settings.integer "--epochs" fallback = fallback :=
  g.integer_of_absent absent fallback

/-- Epochs that are given are in range. -/
theorem one_le_of_given (given : OptionSpec.epochs.name ∈ g.given.map (·.spec.name)) (fallback : Int) :
    1 ≤ g.settings.integer "--epochs" fallback := by
  obtain ⟨o, member, same⟩ := List.mem_map.mp given
  have distinct := (wellNamed_of_listed storing_listed).distinct
  have found := find?_of_distinct distinct (List.mem_append_left _ (g.known o member))
  rw [same, find?_of_distinct distinct (List.mem_append_left _ epochs_own)] at found
  have chosen : g.settings.lookup o.spec.name = some o.meaning := lookup_of_distinct g.distinct member
  have suits := g.suits o member
  unfold Occurrence.meaning at chosen
  unfold Occurrence.Suits at suits
  rw [← Option.some.inj found] at chosen suits
  obtain ⟨-, inside⟩ := suits
  have held : g.settings.lookup ("--epochs" : Text) = some (.integer (Json.Reader.digitsValue o.value)) := chosen
  have value : g.settings.integer "--epochs" fallback = Json.Reader.digitsValue o.value := by
    rw [Settings.integer, held]
  rw [value]
  simpa [Range.contains] using inside

theorem epochs_hold (least : 1 ≤ g.settings.integer "--epochs" environment.defaults.storageEpochs) :
    ∀ spec ∈ Command.encryptAndStore.options, spec.name ∉ g.given.map (·.spec.name) →
      spec.Holds environment.defaults := by
  intro spec own absent
  rcases holds_of_listed storing_listed environment.defaults spec own with rfl | holds
  · rw [epochs_of_absent g absent] at least
    simpa [OptionSpec.Holds, OptionSpec.epochs, Range.contains] using least
  · exact holds

theorem read_of_low (low : g.settings.integer "--epochs" environment.defaults.storageEpochs < 1) :
    Settings.read environment.defaults Command.encryptAndStore.allOptions ⟨g.given, []⟩ =
      .error (.outOfRange "--epochs" (g.settings.integer "--epochs" environment.defaults.storageEpochs)
        ⟨1, none⟩) := by
  have absent : OptionSpec.epochs.name ∉ g.given.map (·.spec.name) := by
    intro given
    exact absurd low (Int.not_lt.mpr (one_le_of_given g given _))
  rw [epochs_of_absent g absent] at low ⊢
  refine g.read_outOfRange (wellNamed_of_listed storing_listed).distinct epochs_own absent rfl ?_ ?_
  · simpa [Range.contains] using low
  · intro other own different
    exact (holds_of_listed storing_listed environment.defaults other own).resolve_left different

/-- How a mistake about the epochs is shown behind the usage. -/
theorem line_lowEpochs (i : Int) :
    Action.line ("Error: " ++ (UsageError.outOfRange "--epochs" i ⟨1, none⟩).message) =
      "Error: Invalid value for '--epochs': " ++ .ofInt i ++ " is not in the range x>=1.\n" := by
  have message : "Error: " ++ (UsageError.outOfRange "--epochs" i ⟨1, none⟩).message =
      "Error: Invalid value for '--epochs': " ++ .ofInt i ++ " is not in the range x>=1." := by
    simp only [UsageError.message, UsageError.invalidValue, List.append_assoc]
    rfl
  have shown : Json.Shown true
      (("Error: Invalid value for '--epochs': " : Text) ++ .ofInt i ++ " is not in the range x>=1.") := by
    refine Json.shown_append.mpr ⟨Json.shown_append.mpr ⟨?_, Json.shown_ofInt i⟩, ?_⟩
    · exact Json.shown_word rfl
    · exact Json.shown_word rfl
  rw [message, Action.line_of_clear shown.clear shown.plain, List.append_assoc]
  rfl

/-- Epochs that are neither given nor standing in range are a mistake in using the command. -/
theorem run_of_low {line : List Text} (spelled : Line g.given line)
    (low : g.settings.integer "--epochs" environment.defaults.storageEpochs < 1) (w : World) :
    ∃ usage, (run environment ("encrypt-and-store" :: line)).run w = (.ok 2, w.tell (usage ++
      "Error: Invalid value for '--epochs': " ++
      .ofInt (g.settings.integer "--epochs" environment.defaults.storageEpochs) ++
      " is not in the range x>=1.\n")) := by
  have mistaken := run_of_mistake storing_listed g spelled (read_of_low g low)
  change run environment ("encrypt-and-store" :: line) = _ at mistaken
  let frame := Frame.ofCommand .encryptAndStore
  refine ⟨Action.line frame.usage ++ (Action.line ("Try '" ++ frame.path ++ " --help' for help.") ++
    Action.line []), ?_⟩
  rw [mistaken]
  simp only [Frame.misuse, UsageError.showsUsage, if_true, Action.run_bind, Action.run_report, Action.run_pure,
    World.tell_tell, line_lowEpochs, List.append_assoc]
  rfl

end Storing

/-- Every command line that spells choices for a command does what the operation does with the chosen
values. A file is stored for the epochs that are chosen, or else for those that stand in the environment, which
are a mistake in using the command if there is less than one of them. -/
theorem run_fronts (environment : Environment) :
    (∀ (g : Choices .decrypt) line, Line g.given line → ∀ w,
      Fronts (run environment ("decrypt" :: line))
        (Retrieve.command environment g.settings.transport
          ⟨g.settings.text "--blob-id", g.settings.text "--decryption-key",
            .ofText (g.settings.text "--output"), g.settings.text "--checksum", g.settings.verbosity⟩) w) ∧
    (∀ (g : Choices .hashAudit) line, Line g.given line →
      run environment ("hash-audit" :: line) =
        Evidence.hash g.settings.verbosity
          ⟨g.settings.text "--action", g.settings.text "--prompt", .integer (g.settings.integer "--score" 0),
            g.settings.text "--tags", g.settings.text "--decision", g.settings.text "--reason",
            g.settings.text "--timestamp"⟩) ∧
    (∀ (g : Choices .signAudit) line, Line g.given line →
      run environment ("sign-audit" :: line) =
        Evidence.sign g.settings.verbosity ⟨g.settings.text "--record-hash",
          signingKey environment (g.settings.text "--private-key")⟩) ∧
    (∀ (g : Choices .verifyAudit) line, Line g.given line →
      run environment ("verify-audit" :: line) =
        Evidence.verify ⟨g.settings.text "--record-hash", g.settings.text "--signature",
          g.settings.text "--public-key"⟩) ∧
    ∀ (g : Choices .encryptAndStore) line, Line g.given line →
      let epochs := g.settings.integer "--epochs" environment.defaults.storageEpochs
      (1 ≤ epochs → ∀ w, NamesFile w (.ofText (g.settings.text "--file")) →
        Fronts (run environment ("encrypt-and-store" :: line))
          (Store.command environment g.settings.transport
            ⟨.ofText (g.settings.text "--file"), epochs, g.settings.verbosity⟩) w) ∧
      (epochs < 1 → ∀ w, ∃ usage, (run environment ("encrypt-and-store" :: line)).run w =
        (.ok 2, w.tell (usage ++ "Error: Invalid value for '--epochs': " ++ .ofInt epochs ++
          " is not in the range x>=1.\n"))) := by
  refine ⟨?_, ?_, ?_, ?_, ?_⟩
  · intro g line spelled w
    have same := run_eq_of_other (.head _) (by decide) g spelled environment
    exact same ▸ untilInterrupted_fronts _ w
  · intro g line spelled
    exact run_eq_of_other (by simp [Command.all]) (by decide) g spelled environment
  · intro g line spelled
    have same := run_eq_of_other (by simp [Command.all]) (by decide) g spelled environment
    exact same.trans (signAudit_run environment g.settings)
  · intro g line spelled
    exact run_eq_of_other (by simp [Command.all]) (by decide) g spelled environment
  · intro g line spelled epochs
    constructor
    · intro least w named
      have same := run_eq storing_listed g spelled (epochs_hold g least)
      exact same ▸ encryptAndStore_fronts environment g.settings named
    · intro low w
      exact run_of_low g spelled low w

/-- An empty signing key, and a hash that looks like an option. -/
def Choices.unsaidKey : Choices .signAudit where
  given :=
    let options := Command.signAudit.options
    [⟨options[1], []⟩, ⟨options[2], []⟩, ⟨options[0], "--ff"⟩]
  known := by
    simp only [List.forall_mem_cons]
    exact ⟨List.getElem_mem _, List.getElem_mem _, List.getElem_mem _, nofun⟩
  distinct := by decide
  complete := by decide
  suits := by
    simp only [List.forall_mem_cons]
    exact ⟨trivial, rfl, trivial, nofun⟩

def Choices.sevenEpochs : Choices .encryptAndStore where
  given :=
    let options := Command.encryptAndStore.options
    [⟨options[2], "007"⟩, ⟨options[0], "/f"⟩]
  known := by
    simp only [List.forall_mem_cons]
    exact ⟨List.getElem_mem _, List.getElem_mem _, nofun⟩
  distinct := by decide
  complete := by decide
  suits := by
    have numeral : Integer.Decimal "007" := ⟨List.all_eq_true.mp rfl, by decide, by decide⟩
    simp only [List.forall_mem_cons]
    exact ⟨⟨numeral, rfl⟩, trivial, nofun⟩

def Choices.plainFile : Choices .encryptAndStore where
  given := [⟨OptionSpec.needed "--file" "Path to the file to encrypt.", "/f"⟩]
  known := List.forall_mem_singleton.mpr (.head _)
  distinct := by decide
  complete := by decide
  suits := List.forall_mem_singleton.mpr trivial

/-- Signing with the key of the environment, and storing without a publisher. A program that is started with
five epochs standing stores for five, and one that is started with none does not store. -/
theorem run_fronts_spelled :
    let w : World := ⟨⟨[([[0x66]], .file [7])], []⟩, [], [], [], [], [], []⟩
    let signing : List Text := ["--private-key=", "--verbose", "--record-hash", "--ff"]
    let storing : List Text := ["--epochs", "007", "--file=/f"]
    let keyed : Environment := ⟨[("LAZARUS_SIGNING_KEY", "k")], .standard, 1000⟩
    let five : Environment := ⟨[("LAZARUS_VAULT_EPOCHS", "5")], ⟨5, 300⟩, 1000⟩
    Line Choices.unsaidKey.given signing ∧ Line Choices.sevenEpochs.given storing ∧
      Line Choices.plainFile.given ["--file=/f"] ∧ NamesFile w (.ofText "/f") ∧
      run keyed ("sign-audit" :: signing) = Evidence.sign ⟨false, true⟩ ⟨"--ff", "k"⟩ ∧
      (run keyed ("encrypt-and-store" :: storing)).run w =
        (.ok 3, w.tell (Action.line Report.noPublisherLine)) ∧
      Environment.load 1000 five.vars = .ok five ∧
      Fronts (run five ["encrypt-and-store", "--file=/f"])
        (Store.command five ⟨[], 0, false⟩ ⟨.ofText "/f", 5, ⟨false, false⟩⟩) w ∧
      ∃ usage, (start 1000 [("LAZARUS_VAULT_EPOCHS", "0")] ["encrypt-and-store", "--file=/f"]).run w =
        (.ok 2, w.tell (usage ++ "Error: Invalid value for '--epochs': " ++ .ofInt 0 ++
          " is not in the range x>=1.\n")) := by
  intro w signing storing keyed five
  have spelled : Line Choices.unsaidKey.given signing :=
    .cons (.attached rfl) (.cons (.flag rfl rfl) (.cons (.apart rfl) .nil))
  have stored : Line Choices.sevenEpochs.given storing := .cons (.apart rfl) (.cons (.attached rfl) .nil)
  have unsaid : Line Choices.plainFile.given ["--file=/f"] := .cons (.attached rfl) .nil
  have named : NamesFile w (.ofText "/f") := ⟨rfl, by decide, by decide⟩
  obtain ⟨-, -, signs, -, stores⟩ := run_fronts keyed
  obtain ⟨-, -, -, -, standing⟩ := run_fronts five
  obtain ⟨-, -, -, -, refused⟩ := run_fronts ⟨[("LAZARUS_VAULT_EPOCHS", "0")], ⟨0, 300⟩, 1000⟩
  have loaded : Environment.load 1000 [("LAZARUS_VAULT_EPOCHS", "0")] =
      .ok ⟨[("LAZARUS_VAULT_EPOCHS", "0")], ⟨0, 300⟩, 1000⟩ := rfl
  have none : Choices.plainFile.settings.integer "--epochs" 0 = 0 := rfl
  rw [start_of_loaded loaded]
  refine ⟨spelled, stored, unsaid, named, signs .unsaidKey _ spelled, ?_, rfl, ?_, ?_⟩
  · exact ((stores .sevenEpochs _ stored).1 (by decide) w named).returns 3 _ rfl
  · exact (standing .plainFile _ unsaid).1 (by decide) w named
  · have low := (refused .plainFile _ unsaid).2 (by decide) w
    dsimp only at low
    rw [none] at low
    exact low

end BlobVault.CommandLine
