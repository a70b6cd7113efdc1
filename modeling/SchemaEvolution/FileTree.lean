import SchemaEvolution.Path

/-!
# Files and directories

What a run sees and leaves behind: a tree of files and directories with a working directory, and the
operations on it that may fail. There are no links in it. A file may be there and refuse to be read;
every directory may be entered, and everything may be written.
-/

namespace SchemaEvolution

/-! ## Failures -/

/-- Why an operation on files fails. -/
inductive FileError where
  | notFound
  | alreadyExists
  | notADirectory
  | isADirectory
  | nameTooLong
  /-- The path holds a null character. -/
  | invalidPath
  | permissionDenied
  /-- The content of the file is no text in UTF-8. -/
  | notText
deriving DecidableEq

/-- A failure in words. -/
def FileError.message : FileError → String
  | notFound => "No such file or directory (os error 2)"
  | alreadyExists => "File exists (os error 17)"
  | notADirectory => "Not a directory (os error 20)"
  | isADirectory => "Is a directory (os error 21)"
  | nameTooLong => "File name too long (os error 36)"
  | invalidPath => "file name contained an unexpected NUL byte"
  | permissionDenied => "Permission denied (os error 13)"
  | notText => "stream did not contain valid UTF-8"

/-! ## The tree -/

/-- What stands at a place. -/
inductive FileTree.Entry where
  | file (content : ByteArray)
  | directory
deriving BEq

/-- Files and directories with their places. -/
structure FileTree where
  /-- The place of the working directory. -/
  workingDirectory : String
  entries : List (String × FileTree.Entry)
  /-- The places of the files that may not be read. -/
  unreadable : List String := []

namespace FileTree

/-- The longest name, in bytes. -/
def maxNameLength : Nat := 255

/-- The longest path, in bytes. -/
def maxPathLength : Nat := 4095

/-- What stands at a place. The root is always a directory. -/
def entry? (t : FileTree) (place : String) : Option Entry :=
  if place.isEmpty then some .directory else t.entries.lookup place

/-- The place that a name leads to from another place. -/
def step (t : FileTree) (place name : String) : Except FileError String :=
  match t.entry? place with
  | none => .error .notFound
  | some (.file _) => .error .notADirectory
  | some .directory =>
    if name = "." || name = ".." then .ok (Path.next place name)
    else if maxNameLength < name.utf8ByteSize then .error .nameTooLong
    else if (t.entry? (Path.child place name)).isSome then .ok (Path.child place name)
    else .error .notFound

/-- Where a path starts. -/
def start (t : FileTree) (path : String) : String :=
  if Path.isAbsolute path then "" else t.workingDirectory

/-- The places on the way that a path leads. -/
def placesTo (t : FileTree) (path : String) : List String :=
  Path.places (t.start path) (Path.names path)

/-- The place that names lead to. -/
def walk (t : FileTree) (start : String) (names : List String) : Except FileError String :=
  names.foldlM t.step start

/-- Fails if a path cannot be one at all. -/
def checkPath (path : String) : Except FileError Unit :=
  if path.toList.contains '\x00' then .error .invalidPath
  else if maxPathLength < path.utf8ByteSize then .error .nameTooLong
  else .ok ()

/-- The place that a path means and what stands there. -/
def resolve (t : FileTree) (path : String) : Except FileError (String × Entry) := do
  checkPath path
  if path.isEmpty then throw .notFound
  let names := Path.names path ++ (if Path.endsInSlash path then ["."] else [])
  let place ← t.walk (t.start path) names
  match t.entry? place with
  | some e => return (place, e)
  | none => throw .notFound

/-- Whether there is something at a path. -/
def pathExists (t : FileTree) (path : String) : Bool :=
  (t.resolve path).isOk

/-- Whether there is a file at a path. -/
def isFile (t : FileTree) (path : String) : Bool :=
  match t.resolve path with
  | .ok (_, .file _) => true
  | _ => false

/-- What the file at a place holds, if it may be read. -/
def contentAt (t : FileTree) (place : String) (content : ByteArray) : Except FileError ByteArray :=
  if place ∈ t.unreadable then .error .permissionDenied else .ok content

/-- The text of the file at a path. -/
def readText (t : FileTree) (path : String) : Except FileError String := do
  match ← t.resolve path with
  | (_, .directory) => throw .isADirectory
  | (place, .file content) =>
    match String.fromUTF8? (← t.contentAt place content) with
    | some s => return s
    | none => throw .notText

/-! ## Creating -/

/-- The tree with something at a place where there was nothing. -/
def add (t : FileTree) (place : String) (e : Entry) : FileTree :=
  { t with entries := t.entries ++ [(place, e)] }

/-- The tree with a file at a place that may not be read, so nothing is known of what it holds. -/
def addUnreadable (t : FileTree) (place : String) : FileTree :=
  { t.add place (.file .empty) with unreadable := place :: t.unreadable }

/-- The place that a new name gets in the directory at a place. -/
def newPlace (t : FileTree) (directory name : String) : Except FileError String :=
  match t.step directory name with
  | .ok _ => .error .alreadyExists
  | .error .notFound =>
    if (t.entry? directory).isSome then .ok (Path.child directory name) else .error .notFound
  | .error e => .error e

/-- The tree with a new directory whose parent exists. -/
def createDirectory (t : FileTree) (start : String) (names : List String) :
    Except FileError FileTree := do
  match names.getLast? with
  | none => throw .alreadyExists
  | some name =>
    let directory ← t.walk start names.dropLast
    return t.add (← t.newPlace directory name) .directory

/-- Whether names lead to a directory. -/
def isDirectoryAt (t : FileTree) (start : String) (names : List String) : Bool :=
  match (t.walk start names).map t.entry? with
  | .ok (some .directory) => true
  | _ => false

/-- The tree with every directory on the way that names lead from a directory, as far as they could
be created, and the failure if one could not. -/
def createWay (t : FileTree) (place : String) : List String → FileTree × Option FileError
  | [] => (t, none)
  | name :: names =>
    match t.newPlace place name with
    | .ok next => (t.add next .directory).createWay next names
    | .error e =>
      if t.isDirectoryAt place [name] then t.createWay (Path.next place name) names
      else (t, some e)

/-- The tree with the directory that names lead to and its parents, as far as they could be created,
and the failure if one could not. The parents are created only where the directory cannot be created
without them. -/
def createAll (t : FileTree) (start : String) (names : List String) : FileTree × Option FileError :=
  let settle (t : FileTree) (e : FileError) :=
    if t.isDirectoryAt start names then (t, none) else (t, some e)
  match t.createDirectory start names with
  | .ok t => (t, none)
  | .error .notFound =>
    match t.createWay start (Path.parent names) with
    | (t, some e) => (t, some e)
    | (t, none) =>
      match t.createDirectory start names with
      | .ok t => (t, none)
      | .error e => settle t e
  | .error e => settle t e

/-- The tree with the directory at a path and its parents, as far as they could be created, and the
failure if one could not. -/
def createDirectories (t : FileTree) (path : String) : FileTree × Option FileError :=
  if path.isEmpty then (t, none)
  else
    match checkPath path with
    | .ok () => t.createAll (t.start path) (Path.names path)
    | .error e => (t, some e)

/-- The tree with something else at a place. -/
def replace (t : FileTree) (place : String) (e : Entry) : FileTree :=
  { t with entries := t.entries.map fun entry => if entry.1 = place then (place, e) else entry }

/-- The tree with a new text file at a path. -/
def createFile (t : FileTree) (path content : String) : Except FileError FileTree := do
  checkPath path
  match (Path.names path).getLast? with
  | none => throw .isADirectory
  | some name =>
    let directory ← t.walk (t.start path) (Path.names path).dropLast
    return t.add (← t.newPlace directory name) (.file content.toUTF8)

/-- The tree with a text in the file at a path: in place of what the file holds, or in a new file. -/
def writeFile (t : FileTree) (path content : String) : Except FileError FileTree :=
  match t.resolve path with
  | .ok (place, .file _) => .ok (t.replace place (.file content.toUTF8))
  | .ok (_, .directory) => .error .isADirectory
  | .error _ => t.createFile path content

end FileTree

end SchemaEvolution
