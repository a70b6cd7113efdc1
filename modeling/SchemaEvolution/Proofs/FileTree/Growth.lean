import Mathlib.Logic.Relation
import SchemaEvolution.FileTree
import SchemaEvolution.Proofs.Path
import SchemaEvolution.Proofs.Result

/-!
# How trees grow

Creating directories adds directories to a tree, one after the other, and does nothing else to it,
also where it fails on the way (`FileTree.addsDirectories_createDirectories`). Creating a file adds
that file in a directory that is there (`FileTree.createFile_join`), so a file that is created after
directories is the only new one (`FileTree.AddsDirectories.createFile_join`). Whatever stands in a
tree stays there as the tree grows (`FileTree.Keeps`), and paths lead where they led before.
-/

namespace SchemaEvolution.FileTree

open Result (bind_eq_ok)

variable {t t' t'' : FileTree} {place name : String} {names : List String} {e : Entry}

/-! ## What stands where -/

theorem entry?_add (t : FileTree) (place : String) (e : Entry) (p : String) :
    entry? (t.add place e) p = (t.entry? p).or (if p = place then some e else none) := by
  unfold entry?
  by_cases hroot : p.isEmpty = true
  · rw [if_pos hroot, if_pos hroot, Option.some_or]
  · rw [if_neg hroot, if_neg hroot, add, List.lookup_append, List.lookup_cons]
    congr 1
    by_cases hp : p = place
    · simp [hp]
    · simp [hp, beq_eq_false_iff_ne.mpr hp]

/-- Everything in the first tree is in the second one. -/
structure Keeps (t t' : FileTree) : Prop where
  workingDirectory : t'.workingDirectory = t.workingDirectory
  entry {place : String} {e : Entry} : t.entry? place = some e → t'.entry? place = some e

theorem Keeps.refl (t : FileTree) : Keeps t t := ⟨rfl, id⟩

theorem Keeps.trans (h : Keeps t t') (h' : Keeps t' t'') : Keeps t t'' where
  workingDirectory := h'.workingDirectory.trans h.workingDirectory
  entry hentry := h'.entry (h.entry hentry)

theorem keeps_add (t : FileTree) (place : String) (e : Entry) : Keeps t (t.add place e) where
  workingDirectory := rfl
  entry hentry := by rw [entry?_add, hentry, Option.some_or]

/-! ## Paths lead where they led -/

theorem Keeps.start (h : Keeps t t') (path : String) : t'.start path = t.start path := by
  rw [FileTree.start, FileTree.start, h.workingDirectory]

/-- A name leads on only from a directory: in place or up, or to something that is there. -/
theorem step_eq_ok {next : String} :
    t.step place name = .ok next ↔
      t.entry? place = some .directory ∧
        if name = "." ∨ name = ".." then Path.next place name = next
        else name.utf8ByteSize ≤ maxNameLength ∧ (t.entry? (Path.child place name)).isSome ∧
          Path.child place name = next := by
  rw [step]
  cases t.entry? place with
  | none => simp
  | some e =>
    cases e with
    | file content => simp
    | directory =>
      by_cases hdots : name = "." ∨ name = ".."
      · simp [hdots]
      · by_cases hlength : maxNameLength < name.utf8ByteSize
        · simp [hdots, hlength, Nat.not_le.mpr hlength]
        · by_cases hchild : (t.entry? (Path.child place name)).isSome = true
          · simp [hdots, hlength, hchild, Nat.not_lt.mp hlength]
          · simp [hdots, hlength, hchild]

theorem Keeps.step {next : String} (h : Keeps t t') (hstep : t.step place name = .ok next) :
    t'.step place name = .ok next := by
  rw [step_eq_ok] at hstep ⊢
  obtain ⟨hplace, hnext⟩ := hstep
  refine ⟨h.entry hplace, ?_⟩
  by_cases hdots : name = "." ∨ name = ".."
  · rw [if_pos hdots] at hnext ⊢
    exact hnext
  · rw [if_neg hdots] at hnext ⊢
    obtain ⟨hlength, hchild, hnext⟩ := hnext
    obtain ⟨e, he⟩ := Option.isSome_iff_exists.mp hchild
    exact ⟨hlength, Option.isSome_iff_exists.mpr ⟨e, h.entry he⟩, hnext⟩

theorem Keeps.walk {next : String} (h : Keeps t t') (hwalk : t.walk place names = .ok next) :
    t'.walk place names = .ok next := by
  -- the names are followed from any place, so the place changes along with them
  induction names generalizing place with
  | nil => exact hwalk
  | cons name names ih =>
    rw [FileTree.walk, List.foldlM_cons, bind_eq_ok] at hwalk ⊢
    obtain ⟨between, hstep, hwalk⟩ := hwalk
    exact ⟨between, h.step hstep, ih hwalk⟩

/-! ## More directories -/

/-- The second tree is the first one with a directory more. -/
def AddsDirectory (t t' : FileTree) : Prop :=
  ∃ place, t' = t.add place .directory

/-- The second tree is the first one with any number of directories more. -/
abbrev AddsDirectories : FileTree → FileTree → Prop :=
  Relation.ReflTransGen AddsDirectory

theorem AddsDirectories.keeps (h : AddsDirectories t t') : Keeps t t' := by
  induction h with
  | refl => exact .refl t
  | tail _ hstep ih =>
    obtain ⟨place, rfl⟩ := hstep
    exact ih.trans (keeps_add _ place .directory)

/-- The files stay as they are, and there are no others. -/
theorem AddsDirectories.file_iff {content : ByteArray} (h : AddsDirectories t t') :
    t'.entry? place = some (.file content) ↔ t.entry? place = some (.file content) := by
  refine ⟨?_, h.keeps.entry⟩
  intro hfile
  induction h with
  | refl => exact hfile
  | tail _ hstep ih =>
    obtain ⟨added, rfl⟩ := hstep
    apply ih
    rw [entry?_add, Option.or_eq_some_iff] at hfile
    rcases hfile with hfile | ⟨-, hadded⟩
    · exact hfile
    · split at hadded <;> simp at hadded

/-! ## New places -/

/-- A name that could lead on but leads to nothing. -/
theorem of_step_notFound {directory : String} (h : t.step directory name = .error .notFound)
    (hdirectory : (t.entry? directory).isSome = true) :
    t.entry? directory = some .directory ∧ t.entry? (Path.child directory name) = none := by
  rw [step] at h
  cases hentry : t.entry? directory with
  | none => simp [hentry] at hdirectory
  | some e =>
    cases e with
    | file content => simp [hentry] at h
    | directory =>
      simp only [hentry] at h
      cases hchild : t.entry? (Path.child directory name) with
      | none => exact ⟨rfl, rfl⟩
      | some e =>
        simp only [hchild, Option.isSome_some, if_true] at h
        split at h
        · exact nomatch h
        · split at h <;> exact nomatch h

/-- A new place is one where there is nothing, in a directory. -/
theorem newPlace_eq_ok {directory : String} (h : t.newPlace directory name = .ok place) :
    place = Path.child directory name ∧ t.entry? directory = some .directory ∧
      t.entry? place = none := by
  rw [newPlace] at h
  split at h
  · exact nomatch h
  · rename_i hstep
    split at h
    · rename_i hdirectory
      obtain ⟨hentry, hchild⟩ := of_step_notFound hstep hdirectory
      obtain rfl := Except.ok.inj h
      exact ⟨rfl, hentry, hchild⟩
    · exact nomatch h
  · exact nomatch h

/-! ## Creating directories -/

theorem addsDirectory_createDirectory {start : String}
    (h : t.createDirectory start names = .ok t') : AddsDirectory t t' := by
  rw [createDirectory] at h
  cases hlast : names.getLast? with
  | none =>
    rw [hlast] at h
    exact nomatch h
  | some name =>
    rw [hlast] at h
    obtain ⟨directory, -, h⟩ := bind_eq_ok.mp h
    obtain ⟨place, -, h⟩ := bind_eq_ok.mp h
    exact ⟨place, (Except.ok.inj h).symm⟩

theorem addsDirectories_createWay (t : FileTree) (place : String) (names : List String) :
    AddsDirectories t (t.createWay place names).1 := by
  -- each name is looked at in the tree that those before it have left
  induction names generalizing t place with
  | nil => exact .refl
  | cons name names ih =>
    rw [createWay]
    cases t.newPlace place name with
    | ok next => exact .head ⟨next, rfl⟩ (ih _ _)
    | error e =>
      by_cases hdirectory : t.isDirectoryAt place [name] = true
      · simp only [if_pos hdirectory]
        exact ih _ _
      · simp only [if_neg hdirectory]
        exact .refl

theorem addsDirectories_createAll (t : FileTree) (start : String) (names : List String) :
    AddsDirectories t (t.createAll start names).1 := by
  have hsettle (t : FileTree) (e : FileError) :
      (if t.isDirectoryAt start names then (t, none) else (t, some e)).1 = t := by
    split <;> rfl
  rw [createAll]
  cases hfirst : t.createDirectory start names with
  | ok t' => exact .single (addsDirectory_createDirectory hfirst)
  | error e =>
    by_cases hmissing : e = .notFound
    · subst hmissing
      -- the parents come first, and stay even if the directory cannot be created
      have hway := addsDirectories_createWay t start (Path.parent names)
      rcases hparents : t.createWay start (Path.parent names) with ⟨t', failure⟩
      rw [hparents] at hway
      cases failure with
      | some e => exact hway
      | none =>
        cases hsecond : t'.createDirectory start names with
        | ok t'' =>
          simp only [hsecond]
          exact hway.tail (addsDirectory_createDirectory hsecond)
        | error e =>
          simp only [hsecond, hsettle]
          exact hway
    · cases e with
      | notFound => exact absurd rfl hmissing
      | _ => simp only [hsettle]; exact .refl

theorem addsDirectories_createDirectories (t : FileTree) (path : String) :
    AddsDirectories t (t.createDirectories path).1 := by
  rw [createDirectories]
  by_cases hempty : path.isEmpty = true
  · rw [if_pos hempty]
  · rw [if_neg hempty]
    cases checkPath path with
    | ok _ => exact addsDirectories_createAll t _ _
    | error e => exact .refl

/-! ## Creating files -/

theorem start_join (t : FileTree) (directory : String) (hname : Path.IsName name) :
    t.start (Path.join directory name) = t.start directory := by
  rw [start, start, Path.isAbsolute_join hname]

/-- A file with a name in a directory is created where that directory is, if there is nothing with
the name. -/
theorem createFile_join {directory content : String} (hname : Path.IsName name)
    (h : t.createFile (Path.join directory name) content = .ok t') :
    ∃ place, t'.walk (t'.start directory) (Path.names directory) = .ok place ∧
      t'.entry? place = some .directory ∧ t.entry? (Path.child place name) = none ∧
      t' = t.add (Path.child place name) (.file content.toUTF8) := by
  rw [createFile, Path.names_join hname, List.getLast?_concat, List.dropLast_concat,
    start_join t directory hname] at h
  obtain ⟨_, -, h⟩ := bind_eq_ok.mp h
  obtain ⟨place, hwalk, h⟩ := bind_eq_ok.mp h
  obtain ⟨new, hnew, h⟩ := bind_eq_ok.mp h
  obtain rfl := Except.ok.inj h
  obtain ⟨rfl, hdirectory, hfree⟩ := newPlace_eq_ok hnew
  have hkeeps : Keeps t (t.add (Path.child place name) (.file content.toUTF8)) := keeps_add _ _ _
  refine ⟨place, ?_, hkeeps.entry hdirectory, hfree, rfl⟩
  rw [hkeeps.start]
  exact hkeeps.walk hwalk

/-- Nothing is written over where nothing stands. -/
theorem writeFile_of_not_exists {path : String} (h : t.pathExists path = false) (content : String) :
    t.writeFile path content = t.createFile path content := by
  rw [pathExists] at h
  rw [writeFile]
  cases hresolve : t.resolve path with
  | error e => rfl
  | ok found =>
    rw [hresolve] at h
    exact nomatch h

/-! ## A file in a directory that may be new -/

/-- The new file is the only one that there was not. -/
theorem file_add_iff {added content : ByteArray} {p : String} (hfree : t.entry? place = none) :
    entry? (t.add place (.file added)) p = some (.file content) ↔
      t.entry? p = some (.file content) ∨ p = place ∧ content = added := by
  rw [entry?_add, Option.or_eq_some_iff]
  by_cases hp : p = place
  · subst hp
    simp [hfree, eq_comm]
  · simp [hp]

/-- A file that is created after directories is the only new file, in the directory that its path
names. -/
theorem AddsDirectories.createFile_join {directory content : String} (h : AddsDirectories t t')
    (hname : Path.IsName name)
    (hcreate : t'.createFile (Path.join directory name) content = .ok t'') :
    Keeps t t'' ∧
      ∃ place, t''.walk (t''.start directory) (Path.names directory) = .ok place ∧
        t''.entry? place = some .directory ∧ t.entry? (Path.child place name) = none ∧
        ∀ file data, t''.entry? file = some (.file data) ↔
          t.entry? file = some (.file data) ∨
            file = Path.child place name ∧ data = content.toUTF8 := by
  obtain ⟨place, hwalk, hdirectory, hfree, rfl⟩ := FileTree.createFile_join hname hcreate
  refine ⟨h.keeps.trans (keeps_add _ _ _), place, hwalk, hdirectory, ?_, ?_⟩
  · -- what stood there before the directories would stand there still
    rw [Option.eq_none_iff_forall_ne_some]
    intro e he
    rw [h.keeps.entry he] at hfree
    exact nomatch hfree
  · intro file data
    rw [file_add_iff hfree, h.file_iff]

end SchemaEvolution.FileTree
