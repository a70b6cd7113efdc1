import SchemaEvolution.Proofs.CommandLine.Job
import SchemaEvolution.Proofs.Json.Texts
import SchemaEvolution.Proofs.Plan.Views

/-!
# Scripts are printed whole

A run that prints the script of a plan prints all of it or nothing (`run_script`). Which statements
belong to the script is decided by the command, the settings and the plan (`Command.statements`), and
only after that is anything printed (`Job.outcome_script`): a run that fails does so before. What is
printed in JSON is read back as the texts of the statements. A revert that leaves changes out reports
the place of each in a line of its own; the notices before the report name these places too, so by
default each of them is named twice (`not_reported_once`).
-/

namespace SchemaEvolution.CommandLine

variable {world : Surroundings} {tree : FileTree} {arguments : List String} {i : Invocation}
  {c : Command} {r : ScriptRequest} {settings : Settings} {plan : Plan}

/-! ## Commands that print scripts -/

/-- The script that a command is asked to print, if it is one that prints scripts. -/
def Command.script? : Command → Option ScriptRequest
  | .forward r => some r
  | .revert r _ => some r
  | _ => none

/-- Whether a command leaves out what cannot be undone. -/
def Command.isPartial (s : Settings) : Command → Bool
  | .revert _ allowPartial => allowPartial || s.allowPartialRevert
  | _ => false

/-- The statements of the script for a plan. -/
def Command.statements (s : Settings) (p : Plan) (c : Command) :
    Except Irreversible (List Statement) :=
  match c with
  | .revert _ _ => if c.isPartial s then .ok p.partialRevert.statements else p.revert
  | _ => .ok p.forward

theorem Command.of_script? (h : c.script? = some r) :
    c = .forward r ∨ ∃ allowPartial, c = .revert r allowPartial := by
  cases c with
  | forward r' =>
    left
    rw [Option.some.inj h]
  | revert r' allowPartial =>
    right
    exact ⟨allowPartial, by rw [Option.some.inj h]⟩
  | _ => simp [script?] at h

/-- A script that may leave changes out is never refused. -/
theorem Command.statements_of_isPartial (hpartial : c.isPartial settings = true) :
    c.statements settings plan = .ok plan.partialRevert.statements := by
  cases c with
  | revert r allowPartial => exact if_pos hpartial
  | _ => exact absurd hpartial Bool.false_ne_true

/-- There is no script for a plan only if all of it is to be undone and something cannot be. -/
theorem Command.statements_error_iff (hscript : c.script? = some r) :
    (∃ e, c.statements settings plan = .error e) ↔
      c = .revert r false ∧ settings.allowPartialRevert = false ∧
        ∃ change ∈ plan.changes, change.revert? = none := by
  obtain rfl | ⟨allowPartial, rfl⟩ := of_script? hscript
  · simp [statements]
  · rw [statements, isPartial]
    cases hpartial : allowPartial || settings.allowPartialRevert with
    | true =>
      have hallowed : ¬(allowPartial = false ∧ settings.allowPartialRevert = false) := by
        rw [← Bool.or_eq_false_iff, hpartial]
        exact Bool.noConfusion
      constructor
      · rintro ⟨e, he⟩
        simp at he
      · rintro ⟨hc, hsetting, -⟩
        exact absurd ⟨(Command.revert.inj hc).2, hsetting⟩ hallowed
    | false =>
      obtain ⟨rfl, hsetting⟩ := Bool.or_eq_false_iff.mp hpartial
      simp [Plan.revert_error_iff, hsetting]

/-! ## Carrying them out -/

/-- What is said about a plan that has been loaded. -/
def Job.planRemarks (c : Command) (s : Settings) (path : String) (p : Plan) : List Remark :=
  [.notice (.loadingPlan path), .notice (.parsedPlan p.changes.length)] ++
    if c.isPartial s then skipRemarks p else []

/-- The script is printed last. -/
theorem Job.outcome_script (hscript : c.script? = some r) (p : Progress) :
    (command world settings c).outcome p =
      match Plan.load p.tree r.plan with
      | .error reason =>
        (.error (.plan r.plan reason),
          { p with remarks := p.remarks ++ [.notice (.loadingPlan r.plan)] })
      | .ok plan =>
        let q := { p with remarks := p.remarks ++ planRemarks c settings r.plan plan }
        match c.statements settings plan with
        | .error e => (.error (.irreversible e), q)
        | .ok statements =>
          (.ok (), { q with
            output := q.output ++
              scriptLines (r.override settings) (statements.map Statement.sql) }) := by
  obtain rfl | ⟨allowPartial, rfl⟩ := Command.of_script? hscript
  · simp only [command, forward, outcome_bind, outcome_loadPlan]
    cases Plan.load p.tree r.plan <;> rfl
  · simp only [command, revert, outcome_bind, outcome_loadPlan]
    cases Plan.load p.tree r.plan with
    | error reason => rfl
    | ok plan =>
      have hoverride : (r.override settings).allowPartialRevert = settings.allowPartialRevert := rfl
      simp only [planRemarks, Command.statements, Command.isPartial, hoverride]
      by_cases hpartial : (allowPartial || settings.allowPartialRevert) = true
      · simp [hpartial]
      · cases plan.revert <;> simp [hpartial]

/-! ## What is printed -/

/-- A text is what a run prints for a script: nothing if there are no statements, else the script on
lines of its own; in JSON, a list that is read back as the statements. -/
def IsPrinted (s : Settings) (statements : List String) (output : String) : Prop :=
  match s.format with
  | .sql => output = if statements = [] then "" else s.script statements ++ "\n"
  | .json => Json.read output = some (.ofTexts statements)

theorem isPrinted_scriptLines (s : Settings) (statements : List String) :
    IsPrinted s statements (joinLines (scriptLines s statements)) := by
  rw [IsPrinted, scriptLines]
  cases s.format with
  | sql => cases statements <;> simp [joinLines, String.join]
  | json =>
    have hlines (line : String) : joinLines [line] = line ++ "\n" := by
      simp [joinLines, String.join]
    rw [hlines]
    exact Json.read_print_ofTexts statements

/-! ## What is said about changes that are left out -/

/-- The notices about the changes that are left out. -/
def skipNotices (p : Plan) : List Notice :=
  (p.render.reverse.filter (·.revert.isNone)).map fun c => .skippedChange c.index c.kind

theorem map_index_skipped (p : Plan) :
    (p.render.reverse.filter (·.revert.isNone)).map (·.index) = p.partialRevert.skipped := by
  rw [Plan.skipped_eq, ← Plan.map_index_filter_render, List.filter_reverse, List.map_reverse]

/-- The changes that are left out are reported in the order in which they are. -/
theorem skipRemarks_eq (p : Plan) :
    skipRemarks p =
      (skipNotices p).map Remark.notice ++ p.partialRevert.skipped.map Remark.skipped := by
  rw [skipRemarks, skipNotices, ← map_index_skipped, List.map_map, List.map_map]
  rfl

/-- Only rows are ever left out. -/
theorem skipNotices_eq (p : Plan) :
    skipNotices p = p.partialRevert.skipped.map (Notice.skippedChange · .insertRow) := by
  have hkind : ∀ c ∈ p.render.reverse.filter (·.revert.isNone), c.kind = .insertRow := by
    intro c hc
    obtain ⟨hc, hrevert⟩ := List.mem_filter.mp hc
    obtain ⟨⟨change, index⟩, -, rfl⟩ := List.mem_map.mp (List.mem_reverse.mp hc)
    cases change with
    | insertRow => rfl
    | _ => exact absurd hrevert Bool.false_ne_true
  rw [← map_index_skipped, skipNotices, List.map_map]
  apply List.map_congr_left
  intro c hc
  show Notice.skippedChange c.index c.kind = .skippedChange c.index .insertRow
  rw [hkind c hc]

/-- The notices of a revert that leaves changes out. -/
def partialNotices (world : Surroundings) (tree : FileTree) (i : Invocation) (r : ScriptRequest)
    (p : Plan) : List Notice :=
  [Job.sourceNotice (Settings.source? tree world.configHome i.settings),
    .loadingPlan r.plan, .parsedPlan p.changes.length] ++ skipNotices p

theorem NoticeFilter.shows_upTo (rank : Nat) (n : Notice) :
    (upTo rank).shows n = decide (n.severity.rank ≤ rank) := rfl

/-- Where neither the arguments nor the environment say otherwise, warnings alone are written. -/
theorem Invocation.remarksText_by_default (hverbose : i.verbose = false)
    (hfilter : world.noticeFilter = none) (notices : List Notice) :
    i.remarksText world (notices.map .notice) =
      String.join ((notices.filter (·.severity = .warning)).map
        (Notice.line world.noticeDisplay world.now)) := by
  have hdefault : NoticeFilter.ofRun i.verbose world.noticeFilter =
      .upTo Severity.warning.rank := by
    rw [hverbose, hfilter]
    rfl
  rw [remarksText, hdefault, List.map_map]
  induction notices with
  | nil => rfl
  | cons n notices ih =>
    rw [List.map_cons, String.join_cons, ih, Function.comp_apply, Remark.text,
      NoticeFilter.shows_upTo]
    cases hseverity : n.severity with
    | warning => simp [hseverity, String.join_cons]
    | detail => simp [hseverity, Severity.rank]

/-- All but the notices about changes that are left out are details. -/
theorem filter_partialNotices (world : Surroundings) (tree : FileTree) (i : Invocation)
    (r : ScriptRequest) (p : Plan) :
    (partialNotices world tree i r p).filter (·.severity = .warning) = skipNotices p := by
  have hdetails : [Job.sourceNotice (Settings.source? tree world.configHome i.settings),
      .loadingPlan r.plan, .parsedPlan p.changes.length].filter (·.severity = .warning) = [] := by
    cases Settings.source? tree world.configHome i.settings <;> rfl
  have hwarnings : ∀ n ∈ skipNotices p, decide (n.severity = .warning) = true := by
    intro n hn
    rw [skipNotices_eq] at hn
    obtain ⟨index, -, rfl⟩ := List.mem_map.mp hn
    rfl
  rw [partialNotices, List.filter_append, hdetails, List.filter_eq_self.mpr hwarnings,
    List.nil_append]

/-- The line that reports a change that is left out. -/
def skipLine (world : Surroundings) (index : Nat) : String :=
  let mark := world.display.paint (.plain .yellow) "⚠"
  s!"{mark} change #{index} cannot be reverted, skipped\n"

/-! ## Runs with settings and a plan -/

/-- What is said before a script is printed. -/
def scriptRemarks (world : Surroundings) (tree : FileTree) (i : Invocation) (s : Settings)
    (r : ScriptRequest) (p : Plan) : List Remark :=
  (Job.afterSettings world tree i.settings).remarks ++ Job.planRemarks i.command s r.plan p

/-- What a revert that leaves changes out says, the report in the end. -/
theorem remarksText_of_isPartial (hpartial : i.command.isPartial settings = true) :
    i.remarksText world (scriptRemarks world tree i settings r plan) =
      i.remarksText world ((partialNotices world tree i r plan).map .notice) ++
        String.join (plan.partialRevert.skipped.map (skipLine world)) := by
  have hremarks : scriptRemarks world tree i settings r plan =
      (partialNotices world tree i r plan).map .notice ++
        plan.partialRevert.skipped.map .skipped := by
    rw [scriptRemarks, Job.planRemarks, if_pos hpartial, skipRemarks_eq, partialNotices,
      List.map_append, List.append_assoc]
    rfl
  have hreport : i.remarksText world (plan.partialRevert.skipped.map .skipped) =
      String.join (plan.partialRevert.skipped.map (skipLine world)) := by
    rw [Invocation.remarksText, List.map_map]
    rfl
  rw [hremarks, Invocation.remarksText_append, hreport]

section Loaded

variable (hscript : i.command.script? = some r)
  (hsettings : Settings.load tree world.configHome i.settings = .ok settings)
include hscript hsettings

/-- Without the plan, a run that is to print its script fails and prints nothing. -/
theorem Invocation.run_of_plan_error {reason : LoadError}
    (hplan : Plan.load tree r.plan = .error reason) :
    (i.run world tree).exitCode = 1 ∧ (i.run world tree).output = "" := by
  have hload : Plan.load (Job.afterSettings world tree i.settings).tree r.plan = .error reason :=
    hplan
  have houtcome := Job.outcome_invocation_of_settings world hsettings
  simp only [Job.outcome_script hscript, hload] at houtcome
  rw [run_of_error houtcome]
  exact ⟨rfl, rfl⟩

variable (hplan : Plan.load tree r.plan = .ok plan)
include hplan

/-- With the plan, a run prints the script of its statements, or fails if it may not have any. -/
theorem Invocation.run_of_plan :
    i.run world tree =
      let remarks := i.remarksText world (scriptRemarks world tree i settings r plan)
      match i.command.statements settings plan with
      | .error e =>
        { exitCode := 1
          output := ""
          errors := remarks ++ (Failure.irreversible e).text world
          tree }
      | .ok statements =>
        { exitCode := 0
          output :=
            joinLines (scriptLines (r.override settings) (statements.map Statement.sql))
          errors := remarks
          tree } := by
  have hload : Plan.load (Job.afterSettings world tree i.settings).tree r.plan = .ok plan := hplan
  have houtcome := Job.outcome_invocation_of_settings world hsettings
  simp only [Job.outcome_script hscript, hload] at houtcome
  cases hstatements : i.command.statements settings plan with
  | error e =>
    rw [hstatements] at houtcome
    exact run_of_error houtcome
  | ok statements =>
    rw [hstatements] at houtcome
    exact run_of_ok houtcome

theorem Invocation.exitCode_run :
    (i.run world tree).exitCode = 0 ∨
      (i.run world tree).exitCode = 1 ∧ (i.run world tree).output = "" := by
  rw [run_of_plan hscript hsettings hplan]
  cases i.command.statements settings plan with
  | error e => exact .inr ⟨rfl, rfl⟩
  | ok statements => exact .inl rfl

theorem Invocation.exitCode_run_eq_one_iff :
    (i.run world tree).exitCode = 1 ↔
      i.command = .revert r false ∧ settings.allowPartialRevert = false ∧
        ∃ change ∈ plan.changes, change.revert? = none := by
  rw [← Command.statements_error_iff hscript, run_of_plan hscript hsettings hplan]
  cases i.command.statements settings plan with
  | error e => exact ⟨fun _ => ⟨e, rfl⟩, fun _ => rfl⟩
  | ok statements =>
    constructor
    · intro hexit
      exact absurd hexit Nat.zero_ne_one
    · rintro ⟨e, he⟩
      exact nomatch he

theorem Invocation.isPrinted_output (hexit : (i.run world tree).exitCode = 0) :
    ∃ statements, i.command.statements settings plan = .ok statements ∧
      IsPrinted (r.override settings) (statements.map Statement.sql)
        (i.run world tree).output := by
  rw [run_of_plan hscript hsettings hplan] at hexit ⊢
  cases hstatements : i.command.statements settings plan with
  | error e =>
    rw [hstatements] at hexit
    exact absurd hexit Nat.one_ne_zero
  | ok statements => exact ⟨statements, rfl, isPrinted_scriptLines _ _⟩

theorem Invocation.errors_of_isPartial (hpartial : i.command.isPartial settings = true) :
    (i.run world tree).errors =
      i.remarksText world ((partialNotices world tree i r plan).map .notice) ++
        String.join (plan.partialRevert.skipped.map (skipLine world)) := by
  rw [run_of_plan hscript hsettings hplan, Command.statements_of_isPartial hpartial,
    ← remarksText_of_isPartial hpartial]

end Loaded

/-! ## Whole runs -/

/-- A run that is to print the script of a plan prints all of it or nothing. Once settings and plan
are loaded, it fails only if all of the plan is to be undone and something cannot be. What a revert
leaves out is reported in the end, the last change first and each in a line of its own. The notices
before the report warn about the same changes; by default these warnings are written, and no other
notices. -/
theorem run_script (hread : Request.read world.settingsFile arguments = some (.run i))
    (hscript : i.command.script? = some r) :
    let outcome := run world tree arguments
    (outcome.exitCode = 0 ∨ outcome.exitCode = 1 ∧ outcome.output = "") ∧
    match Settings.load tree world.configHome i.settings, Plan.load tree r.plan with
    | .ok settings, .ok plan =>
      (outcome.exitCode = 1 ↔
        i.command = .revert r false ∧ settings.allowPartialRevert = false ∧
          ∃ change ∈ plan.changes, change.revert? = none) ∧
      (outcome.exitCode = 0 →
        ∃ statements, i.command.statements settings plan = .ok statements ∧
          IsPrinted (r.override settings) (statements.map Statement.sql) outcome.output) ∧
      (i.command.isPartial settings →
        outcome.errors =
          i.remarksText world ((partialNotices world tree i r plan).map .notice) ++
            String.join (plan.partialRevert.skipped.map (skipLine world)) ∧
        skipNotices plan = plan.partialRevert.skipped.map (Notice.skippedChange · .insertRow) ∧
        (i.verbose = false → world.noticeFilter = none →
          outcome.errors =
            String.join ((skipNotices plan).map (Notice.line world.noticeDisplay world.now)) ++
              String.join (plan.partialRevert.skipped.map (skipLine world))) ∧
        plan.partialRevert.skipped.Pairwise (· > ·) ∧
        ∀ index, index ∈ plan.partialRevert.skipped ↔
          ∃ change, plan.changes[index]? = some change ∧ change.revert? = none)
    | _, _ => outcome.exitCode = 1 := by
  intro outcome
  have houtcome : outcome = i.run world tree := run_of_read hread
  rw [houtcome]
  cases hsettings : Settings.load tree world.configHome i.settings with
  | error reason =>
    obtain ⟨hexit, houtput, -⟩ := Invocation.run_of_load_error hsettings
    exact ⟨.inr ⟨hexit, houtput⟩, hexit⟩
  | ok settings =>
    cases hplan : Plan.load tree r.plan with
    | error reason =>
      obtain ⟨hexit, houtput⟩ := Invocation.run_of_plan_error hscript hsettings hplan
      exact ⟨.inr ⟨hexit, houtput⟩, hexit⟩
    | ok plan =>
      refine ⟨Invocation.exitCode_run hscript hsettings hplan,
        Invocation.exitCode_run_eq_one_iff hscript hsettings hplan,
        Invocation.isPrinted_output hscript hsettings hplan, ?_⟩
      intro hpartial
      have herrors := Invocation.errors_of_isPartial hscript hsettings hplan hpartial
      refine ⟨herrors, skipNotices_eq plan, ?_, Plan.pairwise_skipped plan,
        fun _ => Plan.mem_skipped⟩
      intro hverbose hfilter
      rw [herrors, Invocation.remarksText_by_default hverbose hfilter, filter_partialNotices]

/-- A file with a plan that creates a table with a row in it. -/
def rowFile : FileTree where
  workingDirectory := ""
  entries := [("/p.toml", .file
    "change = [['create_table', 't', [['id', 'serial']]], ['insert_row', 't', ['1']]]".toUTF8)]

theorem load_rowFile :
    Plan.load rowFile "p.toml" =
      .ok { changes :=
        [.createTable ⟨"t", [.ordinary "id" .serial], [], []⟩, .insertRow "t" ["1"]] } := by
  decide +kernel

theorem settings_rowFile : Settings.load rowFile none none = .ok .default := by
  decide +kernel

/-- Undoes as much of that plan as can be undone. -/
def rowRevert : Invocation :=
  { command := .revert { plan := "p.toml" } true }

theorem read_rowRevert :
    Request.read none ["revert", "p.toml", "--allow-partial"] = some (.run rowRevert) := by
  decide

/-- The table goes, and the row is reported, behind a warning unless notices are turned off. -/
theorem run_script_row :
    let world (filter : Option String) : Surroundings :=
      { noticeFilter := filter, now := ⟨0, 0, 0⟩ }
    let outcome (filter : Option String) :=
      run (world filter) rowFile ["revert", "p.toml", "--allow-partial"]
    (∀ filter, (outcome filter).exitCode = 0 ∧ (outcome filter).output = "DROP TABLE t;\n") ∧
      (outcome none).errors =
        "1970-01-01T00:00:00.000000Z  WARN Skipping irreversible change #1 (insert_row)\n" ++
          "⚠ change #1 cannot be reverted, skipped\n" ∧
      (outcome (some "off")).errors = "⚠ change #1 cannot be reverted, skipped\n" := by
  intro world outcome
  have hsettings (filter : Option String) :
      Settings.load rowFile (world filter).configHome rowRevert.settings = .ok .default :=
    settings_rowFile
  have h (filter : Option String) := @run_script (world filter) rowFile _ _ _ read_rowRevert rfl
  simp only [hsettings, load_rowFile] at h
  refine ⟨?_, ?_, ?_⟩
  · intro filter
    obtain ⟨hexits, hfails, hprinted, -⟩ := h filter
    have hexit : (outcome filter).exitCode = 0 := by
      rcases hexits with hexit | ⟨hexit, -⟩
      · exact hexit
      · exact nomatch (Command.revert.inj (hfails.mp hexit).1).2
    obtain ⟨statements, hstatements, houtput⟩ := hprinted hexit
    obtain rfl := Except.ok.inj hstatements
    exact ⟨hexit, houtput⟩
  · obtain ⟨-, -, -, hreport⟩ := h none
    obtain ⟨-, -, hdefault, -⟩ := hreport rfl
    rw [hdefault rfl rfl]
    decide +kernel
  · obtain ⟨-, -, -, hreport⟩ := h (some "off")
    obtain ⟨herrors, -⟩ := hreport rfl
    rw [herrors]
    decide +kernel

/-- How often a text names the change at a place. -/
def mentions (index : Nat) (text : String) : Nat :=
  let name := s!"change #{index} ".toList
  (List.range text.toList.length).countP fun i => name.isPrefixOf (text.toList.drop i)

/-- By default, what a revert leaves out is not named once only: a warning names it too. -/
theorem not_reported_once :
    let world : Surroundings := { now := ⟨0, 0, 0⟩ }
    let outcome := run world rowFile ["revert", "p.toml", "--allow-partial"]
    outcome.exitCode = 0 ∧
      ∃ plan, Plan.load rowFile "p.toml" = .ok plan ∧
        ¬∀ index ∈ plan.partialRevert.skipped, mentions index outcome.errors = 1 := by
  intro world outcome
  have hinvocation : outcome = Invocation.run world rowFile rowRevert := run_of_read read_rowRevert
  have hrun := @Invocation.run_of_plan world rowFile rowRevert _ _ _ rfl settings_rowFile load_rowFile
  have herrors : outcome.errors =
      "1970-01-01T00:00:00.000000Z  WARN Skipping irreversible change #1 (insert_row)\n" ++
        "⚠ change #1 cannot be reverted, skipped\n" := by
    rw [hinvocation, hrun]
    decide +kernel
  have hexit : outcome.exitCode = 0 := by
    rw [hinvocation, hrun]
    rfl
  refine ⟨hexit, _, load_rowFile, ?_⟩
  rw [herrors]
  decide +kernel

end SchemaEvolution.CommandLine
