import SchemaEvolution.CommandLine.Arguments
import SchemaEvolution.CommandLine.Listing
import SchemaEvolution.CommandLine.NoticeFilter
import SchemaEvolution.Loading
import SchemaEvolution.Plan.Skeleton

/-!
# Carrying out commands

A command is a `Job`: it may fail, and what it has said and done until then stays. The script of a
plan is printed last, so a command that fails prints no part of one. A plan file is written only
where nothing stands, in a directory that is there or is made for it.
-/

namespace SchemaEvolution.CommandLine

/-! ## What a run sees -/

/-- What a run can see besides its arguments and the files. -/
structure Surroundings where
  /-- The user's directory for settings. -/
  configHome : Option String := none
  /-- The settings file that the environment names. -/
  settingsFile : Option String := none
  /-- The filter for notices that the environment gives. -/
  noticeFilter : Option String := none
  /-- How the output is shown. -/
  display : Display := { styled := false }
  /-- How notices are shown. -/
  noticeDisplay : Display := { styled := false }
  now : Instant

namespace Surroundings

/-- The names of the variables of the environment that count. -/
def variableNames : List String :=
  ["HOME", "XDG_CONFIG_HOME", "SCHEMASHIFT_CONFIG", "RUST_LOG",
   "CLICOLOR_FORCE", "CLICOLOR", "NO_COLOR"]

/-- The user's directory for settings: the one that is named, or else the usual one at home. -/
def configHomeOf (named home : Option String) : Option String :=
  (named.filter Path.isAbsolute).or
    ((home.filter (!·.isEmpty)).map (Path.join · ".config"))

/-- What a run can see, given how to look up a variable of the environment. -/
def ofVariables (value : String → Option String) (isTerminal : Bool) (now : Instant) :
    Surroundings where
  configHome := configHomeOf (value "XDG_CONFIG_HOME") (value "HOME")
  settingsFile := value "SCHEMASHIFT_CONFIG"
  noticeFilter := value "RUST_LOG"
  display :=
    Display.ofOutput (value "CLICOLOR_FORCE") (value "NO_COLOR") (value "CLICOLOR") isTerminal
  noticeDisplay := Display.ofNotices (value "NO_COLOR")
  now := now

end Surroundings

/-! ## Failures -/

/-- Why a command fails. -/
inductive Failure where
  | settings (reason : LoadError)
  | plan (path : String) (reason : LoadError)
  | irreversible (reason : Irreversible)
  | invalidName (name : String)
  | createDirectory (path : String) (reason : FileError)
  | existing (path : String)
  | write (path : String) (reason : FileError)
deriving DecidableEq

/-- The failure in words. -/
def Failure.message : Failure → String
  | settings reason => s!"Failed to load config: {reason.account}"
  | plan path reason => s!"Failed to load plan {path}: {reason.account}"
  | irreversible reason => s!"Use --allow-partial to skip irreversible changes: {reason.message}"
  | invalidName name => s!"Invalid migration name '{name}': use letters, digits and underscores"
  | createDirectory path reason => s!"Failed to create {path}: {reason.message}"
  | existing path => s!"{path} already exists"
  | write path reason => s!"Failed to write {path}: {reason.message}"

/-! ## Jobs -/

/-- A line on standard error. -/
inductive Remark where
  | notice (notice : Notice)
  /-- A change that is left out of a script. -/
  | skipped (index : Nat)

/-- What a run has done so far. -/
structure Progress where
  tree : FileTree
  /-- The lines on standard output. -/
  output : List String := []
  remarks : List Remark := []

/-- A part of a run. -/
abbrev Job := ExceptT Failure (StateM Progress)

namespace Job

/-- Prints lines. -/
def print (lines : List String) : Job Unit :=
  modify fun p => { p with output := p.output ++ lines }

/-- Makes remarks. -/
def remark (remarks : List Remark) : Job Unit :=
  modify fun p => { p with remarks := p.remarks ++ remarks }

/-- Tells about the work. -/
def tell (n : Notice) : Job Unit :=
  remark [.notice n]

/-- The files as they are now. -/
def files : Job FileTree := do
  return (← get).tree

/-- Puts other files in place. -/
def setFiles (tree : FileTree) : Job Unit :=
  modify fun p => { p with tree := tree }

/-- Goes on with a result, or fails for the given reason. -/
def orFail {α ε : Type} (failure : ε → Failure) (result : Except ε α) : Job α :=
  ExceptT.mk (pure (result.mapError failure))

/-! ## Loading -/

/-- Loads the settings. -/
def loadSettings (world : Surroundings) (named : Option String) : Job Settings := do
  let tree ← files
  match Settings.source? tree world.configHome named with
  | some path => tell (.loadingSettings path)
  | none => tell .defaultSettings
  orFail .settings (Settings.load tree world.configHome named)

/-- Loads a plan. -/
def loadPlan (path : String) : Job Plan := do
  tell (.loadingPlan path)
  let plan ← orFail (.plan path) (Plan.load (← files) path)
  tell (.parsedPlan plan.changes.length)
  return plan

end Job

/-! ## Scripts -/

/-- The settings with those of the command line in their place. -/
def ScriptRequest.override (r : ScriptRequest) (s : Settings) : Settings :=
  { s with
    format := r.format.getD s.format
    terminator := r.terminator.getD s.terminator }

/-- The lines that a script is printed as: none for an empty one in SQL. -/
def scriptLines (s : Settings) (statements : List String) : List String :=
  match s.format with
  | .sql => if statements.isEmpty then [] else [s.script statements]
  | .json => [Json.print (.indented 0) (.ofTexts statements)]

/-- What is said about the changes that a partial revert leaves out. -/
def skipRemarks (p : Plan) : List Remark :=
  let skipped := p.render.reverse.filter (·.revert.isNone)
  skipped.map (fun c => .notice (.skippedChange c.index c.kind)) ++
  skipped.map (fun c => .skipped c.index)

namespace Job

/-- Prints the script that applies a plan. -/
def forward (settings : Settings) (request : ScriptRequest) : Job Unit := do
  let plan ← loadPlan request.plan
  print (scriptLines (request.override settings) (plan.forward.map Statement.sql))

/-- Prints the script that undoes a plan. -/
def revert (settings : Settings) (request : ScriptRequest) (allowPartial : Bool) : Job Unit := do
  let plan ← loadPlan request.plan
  let settings := request.override settings
  if allowPartial || settings.allowPartialRevert then
    remark (skipRemarks plan)
    print (scriptLines settings (plan.partialRevert.statements.map Statement.sql))
  else
    let statements ← orFail .irreversible plan.revert
    print (scriptLines settings (statements.map Statement.sql))

/-! ## Other commands -/

/-- Shows the changes of a plan. -/
def explain (d : Display) (path : String) (asJson : Bool) : Job Unit := do
  let plan ← loadPlan path
  print (if asJson then [planJson plan] else d.planLines plan)

/-- Makes sure that there is something at the path of a directory. -/
def ensureDirectory (d : Display) (path : String) : Job Unit := do
  if (← files).pathExists path then return
  let (tree, failure) := (← files).createDirectories path
  setFiles tree
  match failure with
  | some reason => throw (.createDirectory path reason)
  | none => print [s!"  Created {d.paint (.plain .yellow) path} directory"]

/-- Creates a plan file in a directory. -/
def create (d : Display) (now : Instant) (name directory : String) : Job Unit := do
  if !Plan.Skeleton.isName name then throw (.invalidName name)
  ensureDirectory d directory
  let skeleton : Plan.Skeleton := { name, created := now }
  let path := Path.join directory skeleton.fileName
  if (← files).pathExists path then throw (.existing path)
  let tree ← orFail (.write path) ((← files).writeFile path skeleton.content)
  setFiles tree
  let mark := d.paint (.plain .green) "✓ Created:"
  print [s!"{mark} {path}"]

/-- Carries out a command under settings. -/
def command (world : Surroundings) (settings : Settings) : Command → Job Unit
  | .forward request => forward settings request
  | .revert request allowPartial => revert settings request allowPartial
  | .explain path asJson => explain world.display path asJson
  | .new name directory =>
    create world.display world.now name (directory.getD settings.directory)
  | .types => print world.display.typeLines

/-- Carries out an invocation. The settings come first, whatever the command. -/
def invocation (world : Surroundings) (i : Invocation) : Job Unit := do
  let settings ← loadSettings world i.settings
  command world settings i.command

end Job

end SchemaEvolution.CommandLine
