import SchemaEvolution.CommandLine.Run

/-!
# What a run looks at

The paths that a run may look at: those for its settings first, and, once these files are there, those
for its command. Only what stands on the way to them matters to the run, so nothing else has to be
fetched before it.
-/

namespace SchemaEvolution.CommandLine

/-- The paths for the settings of an invocation. -/
def Invocation.settingsPaths (world : Surroundings) (i : Invocation) : List String :=
  match i.settings with
  | some path => [path]
  | none => Settings.searchPaths world.configHome

/-- The paths for the command of an invocation, given the files for its settings. -/
def Invocation.commandPaths (world : Surroundings) (tree : FileTree) (i : Invocation) :
    List String :=
  match i.command, Settings.load tree world.configHome i.settings with
  | _, .error _ => []
  | .forward request, _ | .revert request _, _ => [request.plan]
  | .explain plan _, _ => [plan]
  | .new name directory, .ok settings =>
    let directory := directory.getD settings.directory
    [directory, Path.join directory ({ name, created := world.now : Plan.Skeleton }).fileName]
  | .types, _ => []

end SchemaEvolution.CommandLine
