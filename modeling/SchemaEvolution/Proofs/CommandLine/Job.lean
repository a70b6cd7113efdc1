import SchemaEvolution.CommandLine.Run
import SchemaEvolution.Proofs.Result

/-!
# What comes of a job

`Job.outcome` gives the result of a job together with what has been done after it. Each basic job has
its outcome as a lemma for `simp`, and a job that is put together has the outcome of its parts, one
after the other (`Job.outcome_bind`). What a run leaves behind is read off the outcome of its
invocation (`Invocation.run_of_ok`, `Invocation.run_of_error`).
-/

namespace SchemaEvolution.CommandLine

namespace Job

variable {α β ε : Type} {p : Progress}

/-- The result of a job, and what has been done after it, given what has been done before. -/
def outcome (job : Job α) (p : Progress) : Except Failure α × Progress :=
  StateT.run job.run p

/-! ## Parts of jobs -/

@[simp] theorem outcome_pure (a : α) : (pure a : Job α).outcome p = (.ok a, p) := rfl

@[simp] theorem outcome_throw (failure : Failure) :
    (throw failure : Job α).outcome p = (.error failure, p) := rfl

/-- What follows a job is done only if the job does not fail. -/
@[simp] theorem outcome_bind (job : Job α) (next : α → Job β) :
    (job >>= next).outcome p =
      match job.outcome p with
      | (.ok a, q) => (next a).outcome q
      | (.error failure, q) => (.error failure, q) := by
  simp only [outcome, ExceptT.run_bind, StateT.run_bind]
  rcases StateT.run job.run p with ⟨failure | a, q⟩ <;> rfl

@[simp] theorem outcome_print (lines : List String) :
    (print lines).outcome p = (.ok (), { p with output := p.output ++ lines }) := rfl

@[simp] theorem outcome_remark (remarks : List Remark) :
    (remark remarks).outcome p = (.ok (), { p with remarks := p.remarks ++ remarks }) := rfl

@[simp] theorem outcome_tell (n : Notice) :
    (tell n).outcome p = (.ok (), { p with remarks := p.remarks ++ [.notice n] }) := rfl

@[simp] theorem outcome_files : files.outcome p = (.ok p.tree, p) := rfl

@[simp] theorem outcome_setFiles (tree : FileTree) :
    (setFiles tree).outcome p = (.ok (), { p with tree }) := rfl

@[simp] theorem outcome_orFail (failure : ε → Failure) (result : Except ε α) :
    (orFail failure result).outcome p = (result.mapError failure, p) := rfl

/-! ## Loading -/

/-- The notice about where the settings come from. -/
def sourceNotice : Option String → Notice
  | some path => .loadingSettings path
  | none => .defaultSettings

theorem outcome_loadSettings (world : Surroundings) (named : Option String) :
    (loadSettings world named).outcome p =
      ((Settings.load p.tree world.configHome named).mapError .settings,
        { p with
          remarks := p.remarks ++
            [.notice (sourceNotice (Settings.source? p.tree world.configHome named))] }) := by
  simp only [loadSettings, outcome_bind, outcome_files]
  cases Settings.source? p.tree world.configHome named <;>
    simp only [outcome_bind, outcome_tell, outcome_orFail, sourceNotice]

theorem outcome_loadPlan (path : String) :
    (loadPlan path).outcome p =
      match Plan.load p.tree path with
      | .ok plan =>
        (.ok plan, { p with
          remarks := p.remarks ++
            [.notice (.loadingPlan path), .notice (.parsedPlan plan.changes.length)] })
      | .error reason =>
        (.error (.plan path reason),
          { p with remarks := p.remarks ++ [.notice (.loadingPlan path)] }) := by
  simp only [loadPlan, outcome_bind, outcome_tell, outcome_files, outcome_orFail]
  cases Plan.load p.tree path with
  | ok plan =>
    simp only [Result.mapError_ok, outcome_pure, List.append_assoc, List.cons_append,
      List.nil_append]
  | error reason => rfl

/-- What has been done once the settings have been looked for. -/
def afterSettings (world : Surroundings) (tree : FileTree) (named : Option String) : Progress where
  tree := tree
  remarks := [.notice (sourceNotice (Settings.source? tree world.configHome named))]

theorem outcome_invocation (world : Surroundings) (tree : FileTree) (i : Invocation) :
    (invocation world i).outcome { tree } =
      match Settings.load tree world.configHome i.settings with
      | .ok settings =>
        (command world settings i.command).outcome (afterSettings world tree i.settings)
      | .error reason => (.error (.settings reason), afterSettings world tree i.settings) := by
  rw [invocation, outcome_bind, outcome_loadSettings]
  cases Settings.load tree world.configHome i.settings <;> rfl

end Job

/-! ## What a run leaves behind -/

variable {world : Surroundings} {tree : FileTree} {i : Invocation} {p : Progress}

theorem run_of_read {arguments : List String}
    (hread : Request.read world.settingsFile arguments = some (.run i)) :
    run world tree arguments = i.run world tree := by
  rw [run, hread]

/-- The remarks of an invocation as text. -/
def Invocation.remarksText (world : Surroundings) (i : Invocation) (remarks : List Remark) : String :=
  String.join (remarks.map (Remark.text world (NoticeFilter.ofRun i.verbose world.noticeFilter)))

theorem Invocation.remarksText_append (remarks remarks' : List Remark) :
    i.remarksText world (remarks ++ remarks') =
      i.remarksText world remarks ++ i.remarksText world remarks' := by
  rw [remarksText, List.map_append, String.join_append]
  rfl

theorem Invocation.run_of_ok (h : (Job.invocation world i).outcome { tree } = (.ok (), p)) :
    i.run world tree =
      { exitCode := 0
        output := joinLines p.output
        errors := i.remarksText world p.remarks
        tree := p.tree } := by
  rw [Job.outcome] at h
  simp only [run, h, remarksText, String.append_empty]

theorem Invocation.run_of_error {failure : Failure}
    (h : (Job.invocation world i).outcome { tree } = (.error failure, p)) :
    i.run world tree =
      { exitCode := 1
        output := joinLines p.output
        errors := i.remarksText world p.remarks ++ failure.text world
        tree := p.tree } := by
  rw [Job.outcome] at h
  simp only [run, h, remarksText]

/-- Without settings, a run fails and leaves everything as it was. -/
theorem Invocation.run_of_load_error {reason : LoadError}
    (h : Settings.load tree world.configHome i.settings = .error reason) :
    (i.run world tree).exitCode = 1 ∧ (i.run world tree).output = "" ∧
      (i.run world tree).tree = tree := by
  have houtcome : (Job.invocation world i).outcome { tree } =
      (.error (.settings reason), Job.afterSettings world tree i.settings) := by
    rw [Job.outcome_invocation, h]
  rw [run_of_error houtcome]
  exact ⟨rfl, rfl, rfl⟩

/-- With settings, a run does what its command does. -/
theorem Job.outcome_invocation_of_settings (world : Surroundings) {settings : Settings}
    (h : Settings.load tree world.configHome i.settings = .ok settings) :
    (invocation world i).outcome { tree } =
      (command world settings i.command).outcome (afterSettings world tree i.settings) := by
  rw [outcome_invocation, h]

end SchemaEvolution.CommandLine
