import SchemaEvolution.Proofs.CommandLine.Arguments
import SchemaEvolution.Proofs.CommandLine.Script

/-!
# Switches act as settings

A run that is given switches for its script does what a run without them does where the settings say
the same (`run_switches`). As jobs, the two commands are even the same (`Job.command_plain`); what a
run takes from its files besides is the plan, so the files of the two runs may differ otherwise
(`Job.exists_outcome_script`). Any combination of the switches can be written
(`Switches.read_forward`, `Switches.read_revert`).
-/

namespace SchemaEvolution.CommandLine

/-! ## Switches in place of settings -/

/-- What can be given on the command line in place of settings. -/
structure Switches where
  format : Option OutputFormat := none
  terminator : Option String := none
  /-- Nothing is ever left out of a script that applies a plan, so there this is not given. -/
  allowPartial : Bool := false

namespace Switches

/-- The settings with what is given in place of what they say. -/
def settings (w : Switches) (s : Settings) : Settings :=
  { s with
    format := w.format.getD s.format
    terminator := w.terminator.getD s.terminator
    allowPartialRevert := if w.allowPartial then true else s.allowPartialRevert }

/-- The request for the script of a plan. -/
def request (w : Switches) (plan : String) : ScriptRequest where
  plan := plan
  format := w.format
  terminator := w.terminator

/-- The switches with their values. -/
def values (w : Switches) : List (Switch × String) :=
  (w.format.map fun f => (.format, f.name)).toList ++
  (w.terminator.map fun t => (.terminator, t)).toList ++
  if w.allowPartial then [(.allowPartial, "")] else []

end Switches

/-- The switches of a command that takes the place of settings. -/
def Command.switches : Command → Switches
  | .forward r => ⟨r.format, r.terminator, false⟩
  | .revert r allowPartial => ⟨r.format, r.terminator, allowPartial⟩
  | _ => {}

/-- The command without these switches. -/
def Command.plain : Command → Command
  | .forward r => .forward { plan := r.plan }
  | .revert r _ => .revert { plan := r.plan } false
  | c => c

/-! ## Reading them -/

namespace Switches

/-- The switches as arguments. -/
def arguments (w : Switches) : List String :=
  w.values.map fun p => p.1.argument p.2

variable {w : Switches} {p : Switch × String}

theorem mem_values (h : p ∈ w.values) :
    (p.1 = .format ∨ p.1 = .terminator ∨ p.1 = .allowPartial ∧ w.allowPartial = true) ∧
      p.1.Fits p.2 := by
  unfold values at h
  rw [List.mem_append, List.mem_append, Option.mem_toList, Option.mem_toList] at h
  rcases h with (h | h) | h
  · obtain ⟨f, -, rfl⟩ := Option.map_eq_some_iff.mp h
    refine ⟨.inl rfl, ?_, nofun, nofun, nofun⟩
    cases f <;> rfl
  · obtain ⟨t, -, rfl⟩ := Option.map_eq_some_iff.mp h
    exact ⟨.inr (.inl rfl), rfl, nofun, nofun, nofun⟩
  · cases hpartial : w.allowPartial with
    | false =>
      rw [hpartial] at h
      exact absurd h List.not_mem_nil
    | true =>
      rw [hpartial, if_pos rfl, List.mem_singleton] at h
      obtain rfl := h
      exact ⟨.inr (.inr ⟨rfl, rfl⟩), rfl, fun _ => rfl, nofun, nofun⟩

theorem nodup_values (w : Switches) : (w.values.map Prod.fst).Nodup := by
  obtain ⟨f, t, allowPartial⟩ := w
  cases f <;> cases t <;> cases allowPartial <;> simp [values]

/-- The switches are found again with their values, and no other. -/
theorem value?_values (w : Switches) (operands : List String) :
    let g : Given := { values := w.values, operands }
    g.value? .config = none ∧ g.has .verbose = false ∧
      (g.value? .format).bind (fun v => OutputFormat.all.find? (·.name == v)) = w.format ∧
      g.value? .terminator = w.terminator ∧ g.has .allowPartial = w.allowPartial := by
  obtain ⟨f, t, allowPartial⟩ := w
  cases f with
  | none => cases t <;> cases allowPartial <;> exact ⟨rfl, rfl, rfl, rfl, rfl⟩
  | some f => cases f <;> cases t <;> cases allowPartial <;> exact ⟨rfl, rfl, rfl, rfl, rfl⟩

/-- What a command for one plan is given. -/
theorem read_level {l : Level} {plan : String}
    (hswitches : ∀ p ∈ w.values, p.1 ∈ l.switches) (hoperands : l.operands = [false])
    (hplan : plan ≠ "") :
    l.read {} none (w.arguments ++ ["--", plan]) =
      .ok { values := w.values, operands := [plan] } := by
  have hread := Level.read_arguments (l := l) (g := {})
    (fun p hp => ⟨hswitches p hp, (mem_values hp).2⟩) (nodup_values w) ["--", plan]
  have hadd : l.addOperand { values := w.values } plan =
      .ok { values := w.values, operands := [plan] } := by
    unfold Level.addOperand
    simp [hoperands, hplan]
  unfold arguments
  rw [hread]
  show [plan].foldlM l.addOperand _ = _
  rw [List.foldlM_cons]
  show l.addOperand { values := w.values } plan >>= _ = _
  rw [hadd]
  rfl

variable {environment : Option String} {plan : String}

/-- The switches of a script that applies a plan are read in any combination. -/
theorem read_forward (henvironment : environment ≠ some "") (hplan : plan ≠ "")
    (hpartial : w.allowPartial = false) :
    Request.read environment ("forward" :: (w.arguments ++ ["--", plan])) =
      some (.run { settings := environment, command := .forward (w.request plan) }) := by
  have hswitches : ∀ p ∈ w.values, p.1 ∈ CommandName.forward.level.switches := by
    intro p hp
    rcases (mem_values hp).1 with h | h | ⟨-, h⟩
    · rw [h]
      decide
    · rw [h]
      decide
    · exact absurd (hpartial.symm.trans h) Bool.false_ne_true
  obtain ⟨hconfig, hverbose, hformat, hterminator, -⟩ := value?_values w [plan]
  refine Request.read_command (read_level hswitches rfl hplan) hconfig hverbose ?_ henvironment
  simp only [CommandName.command, CommandName.script, hformat, hterminator]
  rfl

/-- The switches of a script that undoes a plan are read in any combination. -/
theorem read_revert (w : Switches) (henvironment : environment ≠ some "") (hplan : plan ≠ "") :
    Request.read environment ("revert" :: (w.arguments ++ ["--", plan])) =
      some (.run
        { settings := environment, command := .revert (w.request plan) w.allowPartial }) := by
  have hswitches : ∀ p ∈ w.values, p.1 ∈ CommandName.revert.level.switches := by
    intro p hp
    rcases (mem_values hp).1 with h | h | ⟨h, -⟩ <;> rw [h] <;> decide
  obtain ⟨hconfig, hverbose, hformat, hterminator, hpartial⟩ := value?_values w [plan]
  refine Request.read_command (read_level hswitches rfl hplan) hconfig hverbose ?_ henvironment
  simp only [CommandName.command, CommandName.script, hformat, hterminator, hpartial]
  rfl

end Switches

/-! ## Carrying out commands -/

section Runs

variable {world : Surroundings} {tree tree' : FileTree} {arguments arguments' : List String}
  {i i' : Invocation} {c : Command} {r : ScriptRequest} {settings : Settings}

/-- Without its switches, a command does the same where the settings say what the switches say. -/
theorem Job.command_plain (world : Surroundings) (settings : Settings)
    (hscript : c.script? = some r) :
    command world (c.switches.settings settings) c.plain = command world settings c := by
  obtain rfl | ⟨allowPartial, rfl⟩ := Command.of_script? hscript
  · rfl
  · cases allowPartial <;> rfl

/-- Whatever the files, what a command prints and says about its script depends on the plan alone. -/
theorem Job.exists_outcome_script (world : Surroundings) (settings : Settings)
    (hscript : c.script? = some r) (loaded : Except LoadError Plan) :
    ∃ result lines remarks, ∀ p : Progress, Plan.load p.tree r.plan = loaded →
      (command world settings c).outcome p =
        (result, { p with output := p.output ++ lines, remarks := p.remarks ++ remarks }) := by
  cases loaded with
  | error reason =>
    refine ⟨.error (.plan r.plan reason), [], [.notice (.loadingPlan r.plan)], ?_⟩
    intro p hload
    simp only [outcome_script hscript, hload, List.append_nil]
  | ok plan =>
    cases hstatements : c.statements settings plan with
    | error e =>
      refine ⟨.error (.irreversible e), [], planRemarks c settings r.plan plan, ?_⟩
      intro p hload
      simp only [outcome_script hscript, hload, hstatements, List.append_nil]
    | ok statements =>
      refine ⟨.ok (), scriptLines (r.override settings) (statements.map Statement.sql),
        planRemarks c settings r.plan plan, ?_⟩
      intro p hload
      simp only [outcome_script hscript, hload, hstatements]

/-! ## What a run leaves behind -/

/-- The exit code for the result of a job. -/
def exitCodeOf : Except Failure Unit → Nat
  | .ok _ => 0
  | .error _ => 1

/-- What is said in the end about the result of a job. -/
def complaintOf (world : Surroundings) : Except Failure Unit → String
  | .ok _ => ""
  | .error failure => failure.text world

/-- What a run says about its settings. -/
def Invocation.settingsText (world : Surroundings) (tree : FileTree) (i : Invocation) : String :=
  i.remarksText world (Job.afterSettings world tree i.settings).remarks

/-- A run whose command only prints and reports. -/
theorem Invocation.run_of_outcome {result : Except Failure Unit} {lines : List String}
    {remarks : List Remark}
    (hsettings : Settings.load tree world.configHome i.settings = .ok settings)
    (houtcome : (Job.command world settings i.command).outcome
        (Job.afterSettings world tree i.settings) =
      (result, { Job.afterSettings world tree i.settings with
        output := lines
        remarks := (Job.afterSettings world tree i.settings).remarks ++ remarks })) :
    i.run world tree =
      { exitCode := exitCodeOf result
        output := joinLines lines
        errors := i.settingsText world tree ++
          (i.remarksText world remarks ++ complaintOf world result)
        tree } := by
  rw [← Job.outcome_invocation_of_settings world hsettings] at houtcome
  cases result with
  | ok _ =>
    rw [run_of_ok houtcome, remarksText_append, complaintOf, String.append_empty]
    rfl
  | error failure =>
    rw [run_of_error houtcome, remarksText_append, String.append_assoc]
    rfl

/-- Two runs that print and report the same behind what they say about their settings. -/
theorem Invocation.run_plain (hscript : i.command.script? = some r)
    (hcommand : i'.command = i.command.plain) (hverbose : i'.verbose = i.verbose)
    (hsettings : Settings.load tree world.configHome i.settings = .ok settings)
    (hsettings' : Settings.load tree' world.configHome i'.settings =
      .ok (i.command.switches.settings settings))
    (hplan : Plan.load tree' r.plan = Plan.load tree r.plan) :
    ∃ exitCode output report,
      i.run world tree =
        { exitCode, output, errors := i.settingsText world tree ++ report, tree } ∧
      i'.run world tree' =
        { exitCode, output, errors := i'.settingsText world tree' ++ report, tree := tree' } := by
  obtain ⟨result, lines, remarks, houtcome⟩ :=
    Job.exists_outcome_script world settings hscript (Plan.load tree r.plan)
  have hremarks : i'.remarksText world remarks = i.remarksText world remarks := by
    unfold remarksText
    rw [hverbose]
  refine ⟨exitCodeOf result, joinLines lines,
    i.remarksText world remarks ++ complaintOf world result, ?_, ?_⟩
  · exact run_of_outcome hsettings (houtcome (Job.afterSettings world tree i.settings) rfl)
  · have houtcome' := houtcome (Job.afterSettings world tree' i'.settings) hplan
    rw [← Job.command_plain world settings hscript, ← hcommand] at houtcome'
    rw [run_of_outcome hsettings' houtcome', hremarks]
    rfl

end Runs

/-! ## Whole runs -/

/-- Without a file for them, the settings are the defaults. -/
theorem eq_default_of_source?_eq_none {tree : FileTree} {configHome named : Option String}
    {settings : Settings} (hload : Settings.load tree configHome named = .ok settings)
    (hsource : Settings.source? tree configHome named = none) : settings = .default := by
  unfold Settings.load at hload
  rw [hsource] at hload
  exact (Except.ok.inj hload).symm

/-- Switches for a script, however they are written, do what the same settings do: with them, a run
prints the script, exits and reports as without them under settings that say what they say. Where no
file says anything else, these are the defaults. -/
theorem run_switches (world : Surroundings) :
    (∀ {tree tree' : FileTree} {arguments arguments' : List String} {i i' : Invocation}
        {r : ScriptRequest} {settings : Settings},
      Request.read world.settingsFile arguments = some (.run i) →
      Request.read world.settingsFile arguments' = some (.run i') →
      i.command.script? = some r → i'.command = i.command.plain → i'.verbose = i.verbose →
      Settings.load tree world.configHome i.settings = .ok settings →
      Settings.load tree' world.configHome i'.settings =
        .ok (i.command.switches.settings settings) →
      Plan.load tree' r.plan = Plan.load tree r.plan →
      let outcome := run world tree arguments
      let outcome' := run world tree' arguments'
      outcome.exitCode = outcome'.exitCode ∧ outcome.output = outcome'.output ∧
      (∃ report, outcome.errors = i.settingsText world tree ++ report ∧
        outcome'.errors = i'.settingsText world tree' ++ report) ∧
      (Settings.source? tree world.configHome i.settings = none → settings = .default)) ∧
    ∀ (w : Switches) (plan : String), world.settingsFile ≠ some "" → plan ≠ "" →
      Request.read world.settingsFile ("revert" :: (w.arguments ++ ["--", plan])) =
        some (.run { settings := world.settingsFile,
                     command := .revert (w.request plan) w.allowPartial }) ∧
      (w.allowPartial = false →
        Request.read world.settingsFile ("forward" :: (w.arguments ++ ["--", plan])) =
          some (.run { settings := world.settingsFile, command := .forward (w.request plan) })) := by
  constructor
  · intro tree tree' arguments arguments' i i' r settings hread hread' hscript hcommand hverbose
      hsettings hsettings' hplan
    obtain ⟨exitCode, output, report, hrun, hrun'⟩ :=
      Invocation.run_plain hscript hcommand hverbose hsettings hsettings' hplan
    rw [run_of_read hread, run_of_read hread', hrun, hrun']
    exact ⟨rfl, rfl, ⟨report, rfl, rfl⟩, eq_default_of_source?_eq_none hsettings⟩
  · intro w plan henvironment hplan
    exact ⟨w.read_revert henvironment hplan, Switches.read_forward henvironment hplan⟩

/-- Three switches at once, the terminator without any text, and a file that says the same. -/
theorem run_switches_json :
    let world : Surroundings := { noticeFilter := some "off", now := ⟨0, 0, 0⟩ }
    let tree := rowFile.add "/schemashift.toml" (.file
      "format = 'json'\nterminator = ''\nallow_partial_revert = true".toUTF8)
    let outcome := run world rowFile
      ["revert", "--format=json", "--terminator=", "--allow-partial", "--", "p.toml"]
    let outcome' := run world tree ["revert", "--", "p.toml"]
    outcome.exitCode = outcome'.exitCode ∧ outcome.output = outcome'.output ∧
      outcome.errors = outcome'.errors := by
  intro world tree
  let w : Switches := ⟨some .json, some "", true⟩
  obtain ⟨hsame, hread⟩ := run_switches world
  have harguments : "revert" :: (w.arguments ++ ["--", "p.toml"]) =
      ["revert", "--format=json", "--terminator=", "--allow-partial", "--", "p.toml"] := by
    decide
  have harguments' : "revert" :: (({} : Switches).arguments ++ ["--", "p.toml"]) =
      ["revert", "--", "p.toml"] := rfl
  have hswitches := (hread w "p.toml" nofun (by decide)).1
  have hplain := (hread {} "p.toml" nofun (by decide)).1
  rw [harguments] at hswitches
  rw [harguments'] at hplain
  have hsettings : Settings.load rowFile world.configHome none = .ok .default := settings_rowFile
  have hsettings' : Settings.load tree world.configHome none = .ok (w.settings .default) := by
    decide +kernel
  have hplan : Plan.load tree "p.toml" = Plan.load rowFile "p.toml" := by
    rw [load_rowFile]
    decide +kernel
  have hruns := hsame hswitches hplain rfl rfl rfl hsettings hsettings' hplan
  have hnotices :
      Invocation.settingsText world rowFile { command := .revert (w.request "p.toml") true } = "" ∧
      Invocation.settingsText world tree { command := .revert { plan := "p.toml" } false } = "" := by
    decide +kernel
  -- nothing but what the theorem says about the runs is used from here on
  generalize run world rowFile _ = outcome at hruns ⊢
  generalize run world tree _ = outcome' at hruns ⊢
  obtain ⟨hexit, houtput, ⟨report, herrors, herrors'⟩, -⟩ := hruns
  refine ⟨hexit, houtput, ?_⟩
  rw [herrors, herrors']
  exact congrArg (· ++ report) (hnotices.1.trans hnotices.2.symm)

end SchemaEvolution.CommandLine
