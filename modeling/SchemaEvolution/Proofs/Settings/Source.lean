import SchemaEvolution.Loading
import SchemaEvolution.Proofs.Result
import SchemaEvolution.Proofs.Toml.Lines

/-!
# One file decides the settings

Settings are read from the file that is named, or from the first of the candidates that is a file,
and what is read there decides the result alone. `Settings.Outcome` says which result belongs to
what a path leads to, and `Settings.search` is the search written as the loop that it is, over any
state of the files: also one in which reading fails for a reason that no tree knows.

Main results:

* `Settings.ofTarget_eq_iff`: what comes of reading settings where a path leads;
* `Settings.search_append`: candidates that are no files are passed over, and nothing behind the
  first file is looked at;
* `Settings.load_one_file`: the statement about loading.
-/

namespace SchemaEvolution

open Result (mapError_ok mapError_error)

/-! ## Where paths lead -/

/-- What a path leads to. That a file is there does not mean that it can be read. -/
inductive Target where
  | nothing (reason : FileError)
  | directory
  | file (content : Except FileError ByteArray)

namespace Target

/-- Whether a path leads to a file. -/
def isFile : Target → Bool
  | file _ => true
  | _ => false

/-- The text that can be read there. -/
def text : Target → Except FileError String
  | nothing reason => .error reason
  | directory => .error .isADirectory
  | file (.error reason) => .error reason
  | file (.ok content) =>
    match String.fromUTF8? content with
    | some s => .ok s
    | none => .error .notText

theorem text_of_content {content : ByteArray} {s : String}
    (h : String.fromUTF8? content = some s) : text (.file (.ok content)) = .ok s := by
  rw [text, h]

theorem text_of_not_text {content : ByteArray} (h : String.fromUTF8? content = none) :
    text (.file (.ok content)) = .error .notText := by
  rw [text, h]

end Target

namespace FileTree

/-- What a path leads to in a tree. -/
def target (t : FileTree) (path : String) : Target :=
  match t.resolve path with
  | .error reason => .nothing reason
  | .ok (_, .directory) => .directory
  | .ok (place, .file content) => .file (t.contentAt place content)

theorem isFile_eq (t : FileTree) (path : String) : t.isFile path = (t.target path).isFile := by
  unfold isFile target
  rcases t.resolve path with reason | ⟨place, content | _⟩ <;> rfl

theorem readText_eq (t : FileTree) (path : String) : t.readText path = (t.target path).text := by
  unfold readText target
  rcases t.resolve path with reason | ⟨place, content | _⟩
  · rfl
  · simp only [bind, Except.bind]
    cases hread : t.contentAt place content with
    | error reason => rfl
    | ok content =>
      cases hcontent : String.fromUTF8? content with
      | none => simp only [Target.text_of_not_text hcontent, hcontent, throw, throwThe,
          MonadExceptOf.throw]
      | some s => simp only [Target.text_of_content hcontent, hcontent, pure, Except.pure]
  · rfl

end FileTree

namespace Settings

variable {view view' : String → Target} {before after : List String} {path : String}

/-! ## Reading -/

/-- The settings that are read where a path leads. -/
def ofTarget (target : Target) : Except LoadError Settings := do
  let text ← target.text.mapError .file
  (ofToml text).mapError .settings

/-- What loading settings has to give where a path leads. Settings come of a file alone, and only if
it can be read, holds text that is TOML, and the document in it is one of settings. -/
inductive Outcome : Target → Except LoadError Settings → Prop
  | missing (reason : FileError) : Outcome (.nothing reason) (.error (.file reason))
  | directory : Outcome .directory (.error (.file .isADirectory))
  | unreadable (reason : FileError) : Outcome (.file (.error reason)) (.error (.file reason))
  | notText {content : ByteArray} (hcontent : String.fromUTF8? content = none) :
    Outcome (.file (.ok content)) (.error (.file .notText))
  | notToml {content : ByteArray} {text : String} (hcontent : String.fromUTF8? content = some text)
    (htext : Toml.read text = none) : Outcome (.file (.ok content)) (.error (.settings .notToml))
  | rejected {content : ByteArray} {text : String} {n : Node} {reason : DecodeError}
    (hcontent : String.fromUTF8? content = some text) (htext : Toml.read text = some n)
    (hn : decode .toml n = .error reason) :
    Outcome (.file (.ok content)) (.error (.settings (.rejected reason)))
  | accepted {content : ByteArray} {text : String} {n : Node} {s : Settings}
    (hcontent : String.fromUTF8? content = some text) (htext : Toml.read text = some n)
    (hn : decode .toml n = .ok s) : Outcome (.file (.ok content)) (.ok s)

theorem ofTarget_of_content {content : ByteArray} {text : String}
    (hcontent : String.fromUTF8? content = some text) :
    ofTarget (.file (.ok content)) = (ofToml text).mapError .settings := by
  rw [ofTarget, Target.text_of_content hcontent]
  rfl

theorem ofTarget_of_outcome {target : Target} {result : Except LoadError Settings}
    (h : Outcome target result) : ofTarget target = result := by
  cases h with
  | missing | directory | unreadable => rfl
  | notText hcontent =>
    rw [ofTarget, Target.text_of_not_text hcontent]
    rfl
  | notToml hcontent htext =>
    rw [ofTarget_of_content hcontent, ofToml, Node.decodeToml, htext]
    rfl
  | rejected hcontent htext hn =>
    rw [ofTarget_of_content hcontent, ofToml, Node.decodeToml, htext]
    simp only [hn, mapError_error]
  | accepted hcontent htext hn =>
    rw [ofTarget_of_content hcontent, ofToml, Node.decodeToml, htext]
    simp only [hn, mapError_ok]

/-- Whatever a path leads to has an outcome. -/
theorem exists_outcome (target : Target) : ∃ result, Outcome target result := by
  match target with
  | .nothing reason => exact ⟨_, .missing reason⟩
  | .directory => exact ⟨_, .directory⟩
  | .file (.error reason) => exact ⟨_, .unreadable reason⟩
  | .file (.ok content) =>
    cases hcontent : String.fromUTF8? content with
    | none => exact ⟨_, .notText hcontent⟩
    | some text =>
      cases htext : Toml.read text with
      | none => exact ⟨_, .notToml hcontent htext⟩
      | some n =>
        cases hn : decode .toml n with
        | error reason => exact ⟨_, .rejected hcontent htext hn⟩
        | ok s => exact ⟨_, .accepted hcontent htext hn⟩

theorem ofTarget_eq_iff {target : Target} {result : Except LoadError Settings} :
    ofTarget target = result ↔ Outcome target result := by
  refine ⟨?_, ofTarget_of_outcome⟩
  rintro rfl
  obtain ⟨result, hresult⟩ := exists_outcome target
  rw [ofTarget_of_outcome hresult]
  exact hresult

/-! ## Searching -/

/-- The settings that are found along candidates: those in the first one that is a file. -/
def search (view : String → Target) : List String → Except LoadError Settings
  | [] => .ok .default
  | path :: paths => if (view path).isFile then ofTarget (view path) else search view paths

theorem search_of_not_isFile (h : ∀ p ∈ before, (view p).isFile = false) :
    search view (before ++ after) = search view after := by
  induction before with
  | nil => rfl
  | cons p before ih =>
    obtain ⟨hp, hbefore⟩ := List.forall_mem_cons.mp h
    rw [List.cons_append, search, hp]
    exact ih hbefore

/-- The first file decides, whatever is in it and whatever is behind it. -/
theorem search_append (h : ∀ p ∈ before, (view p).isFile = false)
    (hpath : (view path).isFile = true) :
    search view (before ++ path :: after) = ofTarget (view path) := by
  rw [search_of_not_isFile h, search, if_pos hpath]

theorem search_eq_default (h : ∀ p ∈ before, (view p).isFile = false) :
    search view before = .ok .default := by
  rw [← List.append_nil before, search_of_not_isFile h, search]

/-! ## Loading -/

/-- The settings that are loaded, given where each path leads. -/
def loadFrom (view : String → Target) (configHome : Option String) :
    Option String → Except LoadError Settings
  | some path => ofTarget (view path)
  | none => search view (searchPaths configHome)

theorem loadFile_eq (tree : FileTree) (path : String) :
    loadFile tree path = ofTarget (tree.target path) := by
  rw [loadFile, ofTarget, tree.readText_eq]

/-- The search among the candidates of a tree, for any candidates. -/
theorem search_target (tree : FileTree) (paths : List String) :
    search tree.target paths =
      match paths.find? tree.isFile with
      | some path => loadFile tree path
      | none => .ok .default := by
  induction paths with
  | nil => rfl
  | cons path paths ih =>
    rw [search, List.find?_cons, tree.isFile_eq path]
    cases (tree.target path).isFile with
    | true => exact (loadFile_eq tree path).symm
    | false => exact ih

theorem load_eq (tree : FileTree) (configHome named : Option String) :
    load tree configHome named = loadFrom tree.target configHome named := by
  cases named with
  | some path => exact loadFile_eq tree path
  | none => exact (search_target tree (searchPaths configHome)).symm

/-- What is loaded depends on one file alone. If a file is named, it is that one, and it has to be
there; otherwise it is the first candidate that is a file, and an error in it is not passed over.
Two states of the files in which this file is the same give the same result, whatever else is in
them. Where no candidate is a file, the settings are those by default. -/
theorem load_one_file :
    (∀ tree configHome named,
      load tree configHome named = loadFrom tree.target configHome named) ∧
    (∀ view configHome path result,
      loadFrom view configHome (some path) = result ↔ Outcome (view path) result) ∧
    (∀ view configHome before path after, searchPaths configHome = before ++ path :: after →
      (∀ p ∈ before, (view p).isFile = false) → (view path).isFile = true →
      ∀ result, loadFrom view configHome none = result ↔ Outcome (view path) result) ∧
    (∀ view configHome, (∀ p ∈ searchPaths configHome, (view p).isFile = false) →
      loadFrom view configHome none = .ok .default) ∧
    (∀ view view' configHome configHome' path, view path = view' path →
      loadFrom view configHome (some path) = loadFrom view' configHome' (some path)) ∧
    (∀ view view' configHome configHome' before path after after' content,
      searchPaths configHome = before ++ path :: after →
      searchPaths configHome' = before ++ path :: after' →
      (∀ p ∈ before, (view p).isFile = false ∧ (view' p).isFile = false) →
      view path = .file content → view' path = .file content →
      loadFrom view configHome none = loadFrom view' configHome' none) := by
  refine ⟨load_eq, fun _ _ _ _ => ofTarget_eq_iff, ?_, ?_, ?_, ?_⟩
  · intro view configHome before path after hpaths hbefore hpath result
    rw [loadFrom, hpaths, search_append hbefore hpath]
    exact ofTarget_eq_iff
  · intro view configHome h
    exact search_eq_default h
  · intro view view' configHome configHome' path h
    rw [loadFrom, loadFrom, h]
  · intro view view' configHome configHome' before path after after' content hpaths hpaths' hbefore
      hpath hpath'
    have hfile (view : String → Target) (h : view path = .file content) :
        (view path).isFile = true := by rw [h]; rfl
    rw [loadFrom, loadFrom, hpaths, hpaths',
      search_append (fun p hp => (hbefore p hp).1) (hfile view hpath),
      search_append (fun p hp => (hbefore p hp).2) (hfile view' hpath'), hpath, hpath']

/-- A directory where the first candidate could be is passed over, a file there that is no text or may
not be read is not, and neither is a file that is named. -/
theorem load_one_file_behind_directory :
    let tree (candidate : FileTree.Entry) : FileTree :=
      { workingDirectory := "/w"
        entries := [("/w", .directory), ("/w/schemashift.toml", candidate), ("/c", .directory),
          ("/c/schemashift", .directory),
          ("/c/schemashift/config.toml", .file "terminator = \"\"\n".toUTF8)] }
    load (tree .directory) (some "/c") none = .ok { Settings.default with terminator := "" } ∧
    load (tree (.file ⟨#[0xc3]⟩)) (some "/c") none = .error (.file .notText) ∧
    load { tree (.file .empty) with unreadable := ["/w/schemashift.toml"] } (some "/c") none =
      .error (.file .permissionDenied) ∧
    load (tree .directory) (some "/c") (some "plan.toml") = .error (.file .notFound) ∧
    load (tree .directory) none none = .ok .default := by
  intro tree
  obtain ⟨hload, hnamed, hfirst, hnone, -, -⟩ := load_one_file
  simp only [hload]
  refine ⟨?_, ?_, ?_, ?_, ?_⟩
  · have hcandidates : searchPaths (some "/c") =
        ["schemashift.toml"] ++ "/c/schemashift/config.toml" :: [] := by decide
    have htarget : (tree .directory).target "/c/schemashift/config.toml" =
        .file (.ok "terminator = \"\"\n".toUTF8) := by rfl
    have hread := Toml.read_plain [.pair "terminator" ""]
      (List.all_eq_true.mp (by decide)) (by decide)
    refine (hfirst _ _ _ _ _ hcandidates ?_ ?_ _).mpr ?_
    · decide +kernel
    · rw [htarget]
      rfl
    · rw [htarget]
      exact .accepted (by decide +kernel) hread rfl
  · have hcandidates : searchPaths (some "/c") =
        [] ++ "schemashift.toml" :: ["/c/schemashift/config.toml"] := by decide
    have htarget : (tree (.file ⟨#[0xc3]⟩)).target "schemashift.toml" =
        .file (.ok ⟨#[0xc3]⟩) := by rfl
    refine (hfirst _ _ _ _ _ hcandidates nofun ?_ _).mpr ?_
    · rw [htarget]
      rfl
    · rw [htarget]
      exact .notText (by decide +kernel)
  · have hcandidates : searchPaths (some "/c") =
        [] ++ "schemashift.toml" :: ["/c/schemashift/config.toml"] := by decide
    have htarget : FileTree.target { tree (.file .empty) with unreadable := ["/w/schemashift.toml"] }
        "schemashift.toml" = .file (.error .permissionDenied) := by rfl
    refine (hfirst _ _ _ _ _ hcandidates nofun ?_ _).mpr ?_
    · rw [htarget]
      rfl
    · rw [htarget]
      exact .unreadable .permissionDenied
  · have htarget : (tree .directory).target "plan.toml" = .nothing .notFound := by rfl
    rw [hnamed, htarget]
    exact .missing .notFound
  · exact hnone _ _ (by decide +kernel)

end Settings

end SchemaEvolution
