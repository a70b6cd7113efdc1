import SchemaEvolution.CommandLine.Job

/-!
# Runs

A run takes the arguments and what it can see to what it leaves behind: the texts on both outputs, the
exit code, and the files. The exit code is 0 after a command that was carried out, 1 after one that
failed, and 2 if the arguments were refused.
-/

namespace SchemaEvolution.CommandLine

/-- What a run leaves behind. -/
structure Outcome where
  exitCode : Nat
  /-- The text on standard output. -/
  output : String
  /-- The text on standard error. -/
  errors : String
  tree : FileTree

/-! ## Text on standard error -/

/-- Lines as text. -/
def joinLines (lines : List String) : String :=
  String.join (lines.map (· ++ "\n"))

/-- A remark as text; a notice that the filter holds back has none. -/
def Remark.text (world : Surroundings) (f : NoticeFilter) : Remark → String
  | .notice n => if f.shows n then n.line world.noticeDisplay world.now else ""
  | .skipped index =>
    let mark := world.display.paint (.plain .yellow) "⚠"
    s!"{mark} change #{index} cannot be reverted, skipped\n"

/-- The failure as text. -/
def Failure.text (world : Surroundings) (failure : Failure) : String :=
  let label := world.display.paint (.alert .red) "Error:"
  s!"{label} {failure.message}\n"

/-! ## Running -/

/-- Runs a command. -/
def Invocation.run (world : Surroundings) (tree : FileTree) (i : Invocation) : Outcome :=
  let (result, progress) := StateT.run (Job.invocation world i).run { tree }
  let filter := NoticeFilter.ofRun i.verbose world.noticeFilter
  let remarks := String.join (progress.remarks.map (Remark.text world filter))
  let (exitCode, complaint) : Nat × String :=
    match result with
    | .ok () => (0, "")
    | .error failure => (1, failure.text world)
  { exitCode
    output := joinLines progress.output
    errors := remarks ++ complaint
    tree := progress.tree }

/-- The name and number of this version. -/
def versionLine : String := "schemashift 0.3.0"

/-- How the program is used. -/
def usage : List String :=
  ["Render typed schema changes to forward and revert SQL",
   "",
   "Usage: schemashift [--config <PATH>] [--verbose] <COMMAND>",
   "",
   "Commands:",
   "  forward <PLAN> [--format sql|json] [--terminator <TEXT>]",
   "  revert <PLAN> [--format sql|json] [--terminator <TEXT>] [--allow-partial]",
   "  explain <PLAN> [--json]",
   "  new <NAME> [--dir <PATH>]",
   "  types"]

/-- Runs the program. -/
def run (world : Surroundings) (tree : FileTree) (arguments : List String) : Outcome :=
  match Request.read world.settingsFile arguments with
  | some (.run i) => i.run world tree
  | some .version => { exitCode := 0, output := joinLines [versionLine], errors := "", tree }
  | some .help => { exitCode := 0, output := joinLines usage, errors := "", tree }
  | none => { exitCode := 2, output := "", errors := joinLines usage, tree }

end SchemaEvolution.CommandLine
