import SchemaEvolution.Plan
import SchemaEvolution.Proofs.Statement.Content
import SchemaEvolution.Settings

/-!
# A script is cut back into its statements

A script has a line for each statement, which ends in the terminator. Where neither the terminator nor
a statement has a line break of its own, `Settings.cut?` finds the statements again
(`Settings.cut?_script`), whatever else stands in the terminator: it is taken off each line once. The
statements of a change have no line break if its names and values have none
(`Change.isOneLine_forward`, `Change.isOneLine_revert`).
-/

namespace SchemaEvolution

/-! ## Lines -/

namespace Text

/-- Whether a text has no line break. -/
def IsOneLine (text : String) : Prop :=
  '\n' ∉ text.toList

instance (text : String) : Decidable (IsOneLine text) :=
  inferInstanceAs (Decidable ('\n' ∉ text.toList))

/-- The lines of a text. -/
def lines (text : String) : List String :=
  (text.toList.splitOn '\n').map String.ofList

/-- The text before an ending, if it has this ending. -/
def beforeEnding? (ending text : String) : Option String :=
  if ending.toList <:+ text.toList then
    some (String.ofList (text.toList.take (text.toList.length - ending.toList.length)))
  else none

variable {texts : List String} {text ending : String}

theorem IsOneLine.append (htext : IsOneLine text) (hending : IsOneLine ending) :
    IsOneLine (text ++ ending) := by
  rw [IsOneLine, String.toList_append, List.mem_append, not_or]
  exact ⟨htext, hending⟩

theorem beforeEnding?_append (text ending : String) :
    beforeEnding? ending (text ++ ending) = some text := by
  have hending : ending.toList <:+ text.toList ++ ending.toList := List.suffix_append _ _
  rw [beforeEnding?, String.toList_append, if_pos hending, List.length_append, Nat.add_sub_cancel,
    List.take_left, String.ofList_toList]

/-- Texts without line breaks are the lines of the text that has one between each two of them. -/
theorem lines_intercalate (hne : texts ≠ []) (h : ∀ t ∈ texts, IsOneLine t) :
    lines ("\n".intercalate texts) = texts := by
  have hlines : (['\n'].intercalate (texts.map String.toList)).splitOn '\n'
      = texts.map String.toList := by
    refine List.splitOn_intercalate '\n' (fun u hu => ?_) (by simpa using hne)
    obtain ⟨t, ht, rfl⟩ := List.mem_map.mp hu
    exact h t ht
  have hbreak : "\n".toList = ['\n'] := rfl
  rw [lines, String.toList_intercalate, hbreak, hlines, List.map_map]
  simp

end Text

open Text (IsOneLine)

/-! ## Scripts -/

namespace Settings

variable {s : Settings} {statements : List String}

/-- The statements on the lines of a script, if each line ends in the terminator. -/
def cut? (s : Settings) (script : String) : Option (List String) :=
  (Text.lines script).mapM (Text.beforeEnding? s.terminator)

theorem script_append (s : Settings) {a b : List String} (ha : a ≠ []) (hb : b ≠ []) :
    s.script (a ++ b) = s.script a ++ "\n" ++ s.script b := by
  have hmap {l : List String} (h : l ≠ []) : l.map (· ++ s.terminator) ≠ [] := by simpa using h
  rw [script, List.map_append, String.intercalate_append_of_ne_nil (hmap ha) (hmap hb)]
  rfl

theorem lines_script (hterminator : IsOneLine s.terminator) (hne : statements ≠ [])
    (h : ∀ t ∈ statements, IsOneLine t) :
    Text.lines (s.script statements) = statements.map (· ++ s.terminator) := by
  refine Text.lines_intercalate (by simpa using hne) fun line hline => ?_
  obtain ⟨t, ht, rfl⟩ := List.mem_map.mp hline
  exact (h t ht).append hterminator

theorem cut?_script (hterminator : IsOneLine s.terminator) (hne : statements ≠ [])
    (h : ∀ t ∈ statements, IsOneLine t) : s.cut? (s.script statements) = some statements := by
  rw [cut?, lines_script hterminator hne h]
  clear hne h
  induction statements with
  | nil => rfl
  | cons t statements ih =>
    rw [List.map_cons, List.mapM_cons, ih, Text.beforeEnding?_append]
    rfl

end Settings

/-! ## Statements without line breaks -/

theorem Statement.isOneLine_sql {s : Statement} (h : ∀ t ∈ s.names ++ s.values, IsOneLine t) :
    IsOneLine s.sql := by
  intro hbreak
  rcases s.within_sql '\n' hbreak with hown | ⟨t, ht, hmem⟩
  · exact absurd hown (by decide)
  · exact h t ht hmem

namespace Change

/-- Whether no name and no value in a change has a line break. -/
def IsOneLine (c : Change) : Prop :=
  ∀ t ∈ c.forward.names ++ c.forward.values, Text.IsOneLine t

instance (c : Change) : Decidable c.IsOneLine :=
  inferInstanceAs (Decidable (∀ t ∈ c.forward.names ++ c.forward.values, Text.IsOneLine t))

theorem isOneLine_forward {c : Change} (h : c.IsOneLine) : Text.IsOneLine c.forward.sql :=
  Statement.isOneLine_sql h

theorem isOneLine_revert {c : Change} {s : Statement} (h : c.IsOneLine) (hs : c.revert? = some s) :
    Text.IsOneLine s.sql := by
  have hvalues : s.values = [] := by
    cases c <;> cases hs <;> rfl
  refine Statement.isOneLine_sql fun t ht => ?_
  rw [hvalues, List.append_nil] at ht
  exact h t (List.mem_append_left _ (names_revert_subset hs ht))

end Change

/-! ## Scripts of plans -/

/-- Whether no name and no value in a plan has a line break. -/
def Plan.IsOneLine (p : Plan) : Prop :=
  ∀ c ∈ p.changes, c.IsOneLine

instance (p : Plan) : Decidable p.IsOneLine :=
  inferInstanceAs (Decidable (∀ c ∈ p.changes, c.IsOneLine))

namespace Settings

/-- A script of a plan that has changes, in either direction, has a line for each statement and is cut
back into its statements; and a script for two lists of statements has those of both one below the
other. -/
theorem script_lines (s : Settings) :
    (∀ p : Plan, p.IsOneLine → Text.IsOneLine s.terminator →
      (p.changes ≠ [] →
        Text.lines (s.script (p.forward.map Statement.sql)) =
          p.changes.map (fun c => c.forward.sql ++ s.terminator) ∧
        s.cut? (s.script (p.forward.map Statement.sql)) = some (p.forward.map Statement.sql)) ∧
      (p.partialRevert.statements ≠ [] →
        Text.lines (s.script (p.partialRevert.statements.map Statement.sql)) =
          p.partialRevert.statements.map (fun t => t.sql ++ s.terminator) ∧
        s.cut? (s.script (p.partialRevert.statements.map Statement.sql)) =
          some (p.partialRevert.statements.map Statement.sql))) ∧
    ∀ a b : List String, a ≠ [] → b ≠ [] → s.script (a ++ b) = s.script a ++ "\n" ++ s.script b := by
  refine ⟨fun p hp hterminator => ⟨fun hne => ?_, fun hne => ?_⟩, fun a b => script_append s⟩
  · have hlines : ∀ t ∈ p.forward.map Statement.sql, Text.IsOneLine t := by
      intro t ht
      rw [Plan.forward, List.map_map, List.mem_map] at ht
      obtain ⟨c, hc, rfl⟩ := ht
      exact Change.isOneLine_forward (hp c hc)
    have hsome : p.forward.map Statement.sql ≠ [] := by simpa [Plan.forward] using hne
    refine ⟨?_, cut?_script hterminator hsome hlines⟩
    rw [lines_script hterminator hsome hlines, Plan.forward, List.map_map, List.map_map]
    rfl
  · have hlines : ∀ t ∈ p.partialRevert.statements.map Statement.sql, Text.IsOneLine t := by
      intro t ht
      obtain ⟨st, hst, rfl⟩ := List.mem_map.mp ht
      obtain ⟨c, hc, hrevert⟩ := List.mem_filterMap.mp hst
      exact Change.isOneLine_revert (hp c (List.mem_reverse.mp hc)) hrevert
    have hsome : p.partialRevert.statements.map Statement.sql ≠ [] := by simpa using hne
    refine ⟨?_, cut?_script hterminator hsome hlines⟩
    rw [lines_script hterminator hsome hlines, List.map_map]
    rfl

/-- A terminator that occurs in every statement is taken off the end of each line and nowhere else. -/
theorem script_lines_parenthesis :
    let s : Settings := { terminator := ")" }
    let p : Plan := { changes := [.createTable ⟨"t", [.primaryKey "id" .serial], [], []⟩,
      .insertRow "t" ["f(1)", "2"]] }
    p.IsOneLine ∧ Text.IsOneLine s.terminator ∧ p.changes ≠ [] ∧ p.partialRevert.statements ≠ [] ∧
    Text.lines (s.script (p.forward.map Statement.sql)) =
      ["CREATE TABLE t (id SERIAL PRIMARY KEY))", "INSERT INTO t VALUES (f(1),2))"] ∧
    s.cut? (s.script (p.forward.map Statement.sql)) =
      some ["CREATE TABLE t (id SERIAL PRIMARY KEY)", "INSERT INTO t VALUES (f(1),2)"] ∧
    s.cut? (s.script (p.partialRevert.statements.map Statement.sql)) = some ["DROP TABLE t"] ∧
    s.script (["DROP TABLE t"] ++ ["DROP TABLE u"]) =
      s.script ["DROP TABLE t"] ++ "\n" ++ s.script ["DROP TABLE u"] := by
  intro s p
  have hp : p.IsOneLine := by decide
  have hterminator : Text.IsOneLine s.terminator := by decide
  have hchanges : p.changes ≠ [] := by decide
  have hstatements : p.partialRevert.statements ≠ [] := by decide
  have hboth := (script_lines s).1 p hp hterminator
  exact ⟨hp, hterminator, hchanges, hstatements, (hboth.1 hchanges).1, (hboth.1 hchanges).2,
    (hboth.2 hstatements).2, (script_lines s).2 _ _ (by decide) (by decide)⟩

end Settings

end SchemaEvolution
