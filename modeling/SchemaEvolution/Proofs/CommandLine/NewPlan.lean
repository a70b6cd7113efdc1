import Mathlib.Data.List.Basic
import SchemaEvolution.Proofs.CommandLine.Job
import SchemaEvolution.Proofs.FileTree.Growth
import SchemaEvolution.Proofs.Plan.Skeleton

/-!
# New plan files do no damage

A run that is to create a plan file either leaves the files as they are or adds that one, directly in
the directory that is asked for (`run_new`). It creates the directory first, and a failure after that
leaves it there; but a name that is refused is refused before anything is created
(`Job.outcome_create_of_refused`). Where something stands at the path of the new file, nothing is
written (`Job.outcome_create`).
-/

namespace SchemaEvolution.CommandLine

open FileTree (AddsDirectories)

/-! ## Steps of the job -/

/-- A directory that is missing is created, as far as it can be. -/
theorem Job.addsDirectories_ensureDirectory (d : Display) (path : String) (p : Progress) :
    AddsDirectories p.tree ((ensureDirectory d path).outcome p).2.tree := by
  have hcreated := FileTree.addsDirectories_createDirectories p.tree path
  simp only [ensureDirectory, outcome_bind, outcome_files]
  by_cases hexists : p.tree.pathExists path = true
  · rw [if_pos hexists]
    exact .refl
  · rw [if_neg hexists]
    simp only [outcome_bind, outcome_files, outcome_setFiles]
    cases (p.tree.createDirectories path).2 with
    | none => exact hcreated
    | some reason => exact hcreated

variable {d : Display} {now : Instant} {name directory : String} {p q : Progress}

theorem Job.outcome_create_of_refused (hname : Plan.Skeleton.isName name = false) :
    (create d now name directory).outcome p = (.error (.invalidName name), p) := by
  simp [create, hname]

/-- A plan file is created after its directory, where there is nothing yet. -/
theorem Job.outcome_create (hname : Plan.Skeleton.isName name = true) :
    (create d now name directory).outcome p =
      let skeleton : Plan.Skeleton := { name, created := now }
      let path := Path.join directory skeleton.fileName
      match (ensureDirectory d directory).outcome p with
      | (.error failure, q) => (.error failure, q)
      | (.ok _, q) =>
        if q.tree.pathExists path then (.error (.existing path), q)
        else
          match q.tree.createFile path skeleton.content with
          | .error reason => (.error (.write path reason), q)
          | .ok tree =>
            let mark := d.paint (.plain .green) "✓ Created:"
            (.ok (), { q with tree, output := q.output ++ [s!"{mark} {path}"] }) := by
  simp only [create, hname, Bool.not_true, if_neg Bool.false_ne_true, outcome_bind]
  rcases (ensureDirectory d directory).outcome p with ⟨failure | _, q⟩
  · rfl
  · simp only [outcome_files]
    by_cases hexists : q.tree.pathExists
      (Path.join directory (Plan.Skeleton.fileName { name, created := now })) = true
    · simp only [hexists, if_true, outcome_bind, outcome_throw]
    · rw [Bool.not_eq_true] at hexists
      simp only [hexists, if_neg Bool.false_ne_true, outcome_bind, outcome_files, outcome_orFail,
        FileTree.writeFile_of_not_exists hexists]
      cases q.tree.createFile
        (Path.join directory (Plan.Skeleton.fileName { name, created := now }))
        (Plan.Skeleton.content { name, created := now }) <;> rfl

/-- Before the file, there are more directories at most; a failure leaves it at that. -/
theorem Job.of_create {result : Except Failure Unit} (hname : Plan.Skeleton.isName name = true)
    (h : (create d now name directory).outcome p = (result, q)) :
    let skeleton : Plan.Skeleton := { name, created := now }
    ∃ grown, AddsDirectories p.tree grown ∧
      match result with
      | .error _ => q.tree = grown
      | .ok _ =>
        grown.createFile (Path.join directory skeleton.fileName) skeleton.content = .ok q.tree := by
  intro skeleton
  have hgrown := addsDirectories_ensureDirectory d directory p
  rw [outcome_create hname] at h
  rcases hensure : (ensureDirectory d directory).outcome p with ⟨failure | _, q'⟩
  · rw [hensure] at h hgrown
    obtain ⟨rfl, rfl⟩ := Prod.mk.inj h
    exact ⟨_, hgrown, rfl⟩
  · rw [hensure] at h hgrown
    refine ⟨q'.tree, hgrown, ?_⟩
    simp only at h
    split at h
    · obtain ⟨rfl, rfl⟩ := Prod.mk.inj h
      rfl
    · split at h
      · obtain ⟨rfl, rfl⟩ := Prod.mk.inj h
        rfl
      · rename_i tree hcreate
        obtain ⟨rfl, rfl⟩ := Prod.mk.inj h
        exact hcreate

/-! ## Runs with settings -/

variable {world : Surroundings} {tree : FileTree} {arguments : List String} {i : Invocation}
  {settings : Settings} {option : Option String}

section Loaded

variable (hcommand : i.command = .new name option)
  (hsettings : Settings.load tree world.configHome i.settings = .ok settings)
include hcommand hsettings

theorem Job.outcome_new :
    (invocation world i).outcome { tree } =
      (create world.display world.now name (option.getD settings.directory)).outcome
        (afterSettings world tree i.settings) := by
  rw [outcome_invocation_of_settings world hsettings, hcommand]
  rfl

/-- A name that is refused is refused before anything is created. -/
theorem Invocation.run_of_refused (hname : Plan.Skeleton.isName name = false) :
    (i.run world tree).exitCode = 1 ∧ (i.run world tree).tree = tree := by
  have hjob := Job.outcome_new hcommand hsettings
  rw [Job.outcome_create_of_refused hname] at hjob
  rw [run_of_error hjob]
  exact ⟨rfl, rfl⟩

/-- With any other name, there is a plan file in the end, or more directories at most. -/
theorem Invocation.run_of_accepted (hname : Plan.Skeleton.isName name = true) :
    let skeleton : Plan.Skeleton := { name, created := world.now }
    let path := Path.join (option.getD settings.directory) skeleton.fileName
    ∃ grown, AddsDirectories tree grown ∧
      ((i.run world tree).exitCode = 1 ∧ (i.run world tree).tree = grown ∨
        (i.run world tree).exitCode = 0 ∧
          grown.createFile path skeleton.content = .ok (i.run world tree).tree) := by
  intro skeleton path
  have hjob := Job.outcome_new hcommand hsettings
  rcases hcreate : (Job.create world.display world.now name
    (option.getD settings.directory)).outcome (Job.afterSettings world tree i.settings)
    with ⟨result, q⟩
  rw [hcreate] at hjob
  obtain ⟨grown, hgrown, hresult⟩ := Job.of_create hname hcreate
  refine ⟨grown, hgrown, ?_⟩
  cases result with
  | error failure =>
    rw [run_of_error hjob]
    exact .inl ⟨rfl, hresult⟩
  | ok _ =>
    rw [run_of_ok hjob]
    exact .inr ⟨rfl, hresult⟩

end Loaded

/-! ## Whole runs -/

/-- A run that is to create a plan file adds that file in the directory that is asked for, or no file
at all. -/
theorem run_new (hread : Request.read world.settingsFile arguments = some (.run i))
    (hcommand : i.command = .new name option)
    (hsettings : Settings.load tree world.configHome i.settings = .ok settings) :
    let outcome := run world tree arguments
    let directory := option.getD settings.directory
    let skeleton : Plan.Skeleton := { name, created := world.now }
    (outcome.exitCode = 0 ∨ outcome.exitCode = 1) ∧
    (¬(name ≠ "" ∧ ∀ c ∈ name.toList, c.isAlphanum = true ∨ c = '_') →
      outcome.exitCode = 1 ∧ outcome.tree = tree) ∧
    (outcome.exitCode = 0 →
      ∃ place, outcome.tree.walk (outcome.tree.start directory) (Path.names directory) = .ok place ∧
        outcome.tree.entry? place = some .directory ∧
        tree.entry? (Path.child place skeleton.fileName) = none ∧
        (∀ file content, outcome.tree.entry? file = some (.file content) ↔
          tree.entry? file = some (.file content) ∨
            file = Path.child place skeleton.fileName ∧ content = skeleton.content.toUTF8) ∧
        skeleton.fileName = world.now.localTime.stamp ++ "_" ++ name ++ ".toml" ∧
        Path.names skeleton.fileName = [skeleton.fileName] ∧
        ∀ c ∈ skeleton.fileName.toList, c.isAlphanum = true ∨ c ∈ ['_', '.', '+', '-']) ∧
    ∀ place e, tree.entry? place = some e → outcome.tree.entry? place = some e := by
  intro outcome directory skeleton
  have houtcome : outcome = i.run world tree := run_of_read hread
  rw [houtcome, ← Plan.Skeleton.isName_eq_true_iff, Bool.not_eq_true]
  cases hname : Plan.Skeleton.isName name with
  | false =>
    obtain ⟨hexit, htree⟩ := Invocation.run_of_refused hcommand hsettings hname
    refine ⟨.inr hexit, fun _ => ⟨hexit, htree⟩, ?_, ?_⟩
    · intro hsuccess
      exact absurd (hexit.symm.trans hsuccess) Nat.one_ne_zero
    · intro place e he
      rw [htree]
      exact he
  | true =>
    obtain ⟨grown, hgrown, ⟨hexit, htree⟩ | ⟨hexit, hfile⟩⟩ :=
      Invocation.run_of_accepted hcommand hsettings hname
    · refine ⟨.inr hexit, fun hrefused => (nomatch hrefused), ?_, ?_⟩
      · intro hsuccess
        exact absurd (hexit.symm.trans hsuccess) Nat.one_ne_zero
      · intro place e he
        rw [htree]
        exact hgrown.keeps.entry he
    · have hfileName := Plan.Skeleton.isName_fileName (s := skeleton) hname
      obtain ⟨hkeeps, place, hwalk, hdirectory, hfree, hfiles⟩ :=
        hgrown.createFile_join hfileName hfile
      refine ⟨.inl hexit, fun hrefused => (nomatch hrefused), ?_, fun _ _ => hkeeps.entry⟩
      intro _
      exact ⟨place, hwalk, hdirectory, hfree, hfiles, rfl, Path.names_of_isName hfileName,
        fun c => Plan.Skeleton.mem_fileName hname⟩

/-- A plan file in a new directory. A name that would lead out of it is refused. -/
theorem run_new_directory :
    let world : Surroundings := { now := ⟨0, 0, 0⟩ }
    let tree : FileTree := { workingDirectory := "/w", entries := [("/w", .directory)] }
    let file := "/w/plans/19700101000000_users.toml"
    let outcome := run world tree ["new", "users", "--dir", "plans"]
    outcome.exitCode = 0 ∧ tree.entry? file = none ∧
      outcome.tree.entry? "/w/plans" = some .directory ∧ (outcome.tree.entry? file).isSome ∧
      (run world tree ["new", "../users"]).tree = tree := by
  intro world tree file
  have hread : Request.read world.settingsFile ["new", "users", "--dir", "plans"] =
      some (.run { command := .new "users" (some "plans") }) := by decide
  have hreadUp : Request.read world.settingsFile ["new", "../users"] =
      some (.run { command := .new "../users" none }) := by decide
  have hsettings : Settings.load tree world.configHome none = .ok .default := by decide +kernel
  have hadded := (run_new hread rfl hsettings).2.2.1
  have hrefused := (run_new hreadUp rfl hsettings).2.1
  have hrun :
      let outcome := run world tree ["new", "users", "--dir", "plans"]
      outcome.exitCode = 0 ∧
        outcome.tree.walk (outcome.tree.start "plans") (Path.names "plans") = .ok "/w/plans" := by
    decide +kernel
  -- nothing but what the theorem says about the runs is used from here on
  generalize run world tree ["new", "users", "--dir", "plans"] = outcome at hrun hadded ⊢
  generalize run world tree ["new", "../users"] = refused at hrefused ⊢
  obtain ⟨place, hwalk, hdirectory, hfree, hfiles, -⟩ := hadded hrun.1
  obtain rfl : "/w/plans" = place := Except.ok.inj (hrun.2.symm.trans hwalk)
  have hname : Path.child "/w/plans" (Plan.Skeleton.fileName { name := "users", created := world.now })
      = file := by decide +kernel
  rw [hname] at hfree hfiles
  have hfile := (hfiles file _).mpr (.inr ⟨rfl, rfl⟩)
  have hdot : ¬('.'.isAlphanum = true ∨ '.' = '_') := by decide
  have hkept := (hrefused fun hname => hdot (hname.2 '.' (by decide))).2
  exact ⟨hrun.1, hfree, hdirectory, Option.isSome_iff_exists.mpr ⟨_, hfile⟩, hkept⟩

end SchemaEvolution.CommandLine
