import SchemaEvolution.CommandLine.Reach
import Std.Time.Zoned

/-!
# The program

Fetches what a run looks at, runs it, and puts what it leaves behind in place.
-/

namespace SchemaEvolution.CommandLine

/-! ## Surroundings -/

/-- The time now, with the offset of the zone that the environment names or else of this place. -/
def currentTime : IO Instant := do
  let stamp ← Std.Time.Timestamp.now
  let rules ←
    match ← IO.getEnv "TZ" with
    | some name =>
      try Std.Time.Database.defaultGetZoneRules name
      catch _ => pure Std.Time.TimeZone.ZoneRules.UTC
    | none =>
      try Std.Time.Database.defaultGetLocalZoneRules
      catch _ => pure Std.Time.TimeZone.ZoneRules.UTC
  let nanoseconds := stamp.toNanosecondsSinceUnixEpoch.val
  return {
    seconds := nanoseconds / Calendar.secondNanos
    nanoseconds := (nanoseconds % Calendar.secondNanos).toNat
    offset := (rules.timezoneAt stamp).offset.second.val }

/-- The variables of the environment that a run may look at. -/
def currentVariables : IO (String → Option String) := do
  let pairs ← Surroundings.variableNames.mapM fun name => do return (name, ← IO.getEnv name)
  return fun name => (pairs.lookup name).join

/-- What a run can see besides its arguments and the files. -/
def currentSurroundings : IO Surroundings := do
  let isTerminal ← (← IO.getStdout).isTty
  return Surroundings.ofVariables (← currentVariables) isTerminal (← currentTime)

/-! ## Files -/

/-- The number of the failure to read a directory as a file. -/
def isDirectoryCode : UInt32 := 21

/-- Whether it is a file that stands at a place: no name leads on from there. -/
def isFile (place : String) : IO Bool := do
  try
    let _ ← IO.FS.readBinFile (place ++ "/.")
    return false
  catch
    | .inappropriateType _ code _ => return code ≠ isDirectoryCode
    | _ => return false

/-- The tree with what stands at a place, also if it may not be read. -/
def fetch (tree : FileTree) (place : String) : IO FileTree := do
  try
    return tree.add place (.file (← IO.FS.readBinFile place))
  catch
    | .inappropriateType _ code _ =>
      return if code = isDirectoryCode then tree.add place .directory else tree
    | .permissionDenied _ _ _ =>
      return if ← isFile place then tree.addUnreadable place else tree.add place .directory
    | _ => return tree

/-- The tree with all that stands on the way to some paths. -/
def fetchAll (tree : FileTree) (paths : List String) : IO FileTree := do
  let mut tree := tree
  for place in paths.flatMap tree.placesTo do
    if (tree.entry? place).isNone then
      tree ← fetch tree place
  return tree

/-- Puts an entry in place. -/
def store (place : String) : FileTree.Entry → IO Unit
  | .file content => IO.FS.writeBinFile place content
  | .directory => IO.FS.createDir place

/-! ## Running -/

/-- The files that the arguments are about. -/
def fetchFor (world : Surroundings) (arguments : List String) : IO FileTree := do
  let workingDirectory := Path.place (← IO.currentDir).toString
  let tree : FileTree := { workingDirectory, entries := [] }
  match Request.read world.settingsFile arguments with
  | some (.run i) =>
    let tree ← fetchAll tree (i.settingsPaths world)
    fetchAll tree (i.commandPaths world tree)
  | _ => return tree

end SchemaEvolution.CommandLine

open SchemaEvolution.CommandLine in
/-- Runs the program; the exit code is that of the run. -/
def main (arguments : List String) : IO UInt32 := do
  let world ← currentSurroundings
  let tree ← fetchFor world arguments
  let outcome := run world tree arguments
  for (place, entry) in outcome.tree.entries do
    if tree.entry? place != some entry then store place entry
  IO.print outcome.output
  IO.eprint outcome.errors
  return outcome.exitCode.toUInt32
