import SchemaEvolution.Document.Settings
import SchemaEvolution.Proofs.Document.ColumnReading
import SchemaEvolution.Proofs.Document.Extension
import SchemaEvolution.Proofs.Document.Kind

/-!
# Keys that do not belong to a table

What becomes of a key that is not declared for its table depends on the type of the table alone, its
`Level`: changes, columns and settings refuse it by name, while plans, references and constraints
pass over it. `Extended` gives the documents that have one more entry in one table, at any depth.

Main result: `unknown_key`, about plans and settings that have been read.
-/

namespace SchemaEvolution

open Node (EntryAdded ItemReplaced MemberReplaced turns_asList turns_asOption)
open RecordShape (turns_fill_of_entryAdded turns_fill_of_memberReplaced)

/-! ## Levels -/

/-- The types of the tables in a document. -/
inductive Level where
  | plan
  | change (kind : Change.Kind)
  | column
  | reference
  | constraint
  | settings
deriving DecidableEq

namespace Level

/-- The keys that are declared for a table. -/
def keys : Level → List String
  | plan => ["name", "description", "change"]
  | change .createTable => ["kind", "name", "fields", "primary_key", "constraints"]
  | change .addColumn => ["kind", "table", "column"]
  | change .insertRow => ["kind", "table", "values"]
  | column => ["name", "type", "allow_null", "unique", "primary_key", "references"]
  | reference => ["table", "field", "on_delete", "on_update"]
  | constraint => ["name", "unique"]
  | settings => ["format", "terminator", "migrations_dir", "allow_partial_revert"]

/-- Why any other key is refused, if it is. The kind of a change is not among the keys to choose
from. -/
def refusal (key : String) : Level → Option DecodeError
  | change .createTable =>
    some (.unknownKey key ["name", "fields", "primary_key", "constraints"])
  | change .addColumn => some (.unknownKey key ["table", "column"])
  | change .insertRow => some (.unknownKey key ["table", "values"])
  | column =>
    some (.unknownKey key ["name", "type", "allow_null", "unique", "primary_key", "references"])
  | settings =>
    some (.unknownKey key ["format", "terminator", "migrations_dir", "allow_partial_revert"])
  | plan | reference | constraint => none

end Level

/-- `Extended key value l root n m`: the documents `n` and `m` are for a table of the level `root`, and
`m` is `n` with the entry added to one table of the level `l` that it is or holds. -/
inductive Extended (key : String) (value : Node) (l : Level) : Level → Node → Node → Prop
  | here {n m : Node} (h : EntryAdded key value n m) : Extended key value l l n m
  | change {kind : Change.Kind} {n m ns ms N M : Node} (hkind : n.HasKind kind)
    (h : Extended key value l (.change kind) n m) (item : ItemReplaced n m ns ms)
    (member : MemberReplaced "change" 2 ns ms N M) : Extended key value l .plan N M
  | field {n m ns ms N M : Node} (h : Extended key value l .column n m)
    (item : ItemReplaced n m ns ms) (member : MemberReplaced "fields" 2 ns ms N M) :
    Extended key value l (.change .createTable) N M
  | constraint {n m ns ms N M : Node} (h : Extended key value l .constraint n m)
    (item : ItemReplaced n m ns ms) (member : MemberReplaced "constraints" 4 ns ms N M) :
    Extended key value l (.change .createTable) N M
  | column {n m N M : Node} (h : Extended key value l .column n m)
    (member : MemberReplaced "column" 2 n m N M) : Extended key value l (.change .addColumn) N M
  | reference {n m N M : Node} (h : Extended key value l .reference n m)
    (member : MemberReplaced "references" 5 n m N M) : Extended key value l .column N M

variable {key : String} {value n m : Node} {l : Level}

/-! ## References and columns -/

theorem ForeignKey.turns_decode (holder : Holder) (hkey : key ∉ l.keys)
    (h : Extended key value l .reference n m) :
    Turns (l.refusal key) (decode holder n) (decode holder m) := by
  cases h with
  | here h => exact (turns_fill_of_entryAdded hkey h).bind_left _

theorem Column.turns_decode (holder : Holder) (hkey : key ∉ l.keys)
    (h : Extended key value l .column n m) :
    Turns (l.refusal key) (decode holder n) (decode holder m) := by
  have hraw : Turns (l.refusal key) (Raw.decode holder n) (Raw.decode holder m) := by
    cases h with
    | here h => exact (turns_fill_of_entryAdded hkey h).bind_left _
    | @reference n m _ _ h member =>
      have hreference := ForeignKey.turns_decode holder hkey h
      -- a reference may be null, but there is no table in a null
      have hnull : n ≠ .null ∧ m ≠ .null := by
        cases h with
        | here h => cases h; exact ⟨nofun, nofun⟩
      refine (turns_fill_of_memberReplaced rfl rfl (fun d => ?_) member).bind_left _
      exact (turns_asOption hnull.1 hnull.2 hreference).bind_left _
  intro c hc
  have houtcome := hraw c.toRaw (decode_eq_ok_iff_toRaw.mp hc)
  cases hrefusal : l.refusal key with
  | none =>
    rw [hrefusal] at houtcome
    exact decode_eq_ok_iff_toRaw.mpr houtcome
  | some e =>
    rw [hrefusal] at houtcome
    exact decode_eq_error_iff.mpr houtcome

/-! ## Constraints and changes -/

theorem Node.lookup_insert {xs ys : List (String × Node)} {other : String} (hne : other ≠ key) :
    (xs ++ (key, value) :: ys).lookup other = (xs ++ ys).lookup other := by
  have hne' : (other == key) = false := beq_eq_false_iff_ne.mpr hne
  rw [List.lookup_append, List.lookup_append, List.lookup_cons, hne']

theorem Node.filter_insert {xs ys : List (String × Node)} {other : String} (hne : other ≠ key) :
    (xs ++ (key, value) :: ys).filter (·.1 != other)
      = xs.filter (·.1 != other) ++ (key, value) :: ys.filter (·.1 != other) := by
  have hkept : (key != other) = true := bne_iff_ne.mpr hne.symm
  rw [List.filter_append]
  congr 1
  exact List.filter_cons_of_pos hkept

theorem UniqueConstraint.turns_decode (hkey : key ∉ l.keys)
    (h : Extended key value l .constraint n m) :
    Turns (l.refusal key) (decode n) (decode m) := by
  cases h with
  | here h =>
    obtain ⟨xs, ys⟩ := h
    -- only two keys are ever looked up
    have hname : "name" ≠ key := fun heq => hkey (heq ▸ by decide)
    have hunique : "unique" ≠ key := fun heq => hkey (heq ▸ by decide)
    have hsame : decode (.table (xs ++ (key, value) :: ys)) = decode (.table (xs ++ ys)) := by
      simp only [decode, columnsOf, Node.lookup_insert hname, Node.lookup_insert hunique]
    intro c hc
    rw [hsame]
    exact hc

namespace Change

theorem hasKind_of_entryAdded {kind : Kind} (hkey : "kind" ≠ key) (h : EntryAdded key value n m)
    (hkind : n.HasKind kind) : m.HasKind kind ∧ EntryAdded key value (body n) (body m) := by
  obtain ⟨xs, ys⟩ := h
  refine ⟨(Node.lookup_insert hkey).trans hkind, ?_⟩
  simp only [body, kindKey, Node.filter_insert hkey, List.filter_append]
  exact .mk _ _

theorem hasKind_of_memberReplaced {kind : Kind} {index : Nat} {N M : Node} (hkey : "kind" ≠ key)
    (h : MemberReplaced key (index + 1) n m N M) (hkind : N.HasKind kind) :
    M.HasKind kind ∧ MemberReplaced key index n m (body N) (body M) := by
  cases h with
  | keyed xs ys =>
    constructor
    · exact ((Node.lookup_insert hkey).trans (Node.lookup_insert hkey).symm).trans hkind
    · simp only [body, kindKey, Node.filter_insert hkey]
      exact .keyed _ _
  | positional form xs ys hindex =>
    cases xs with
    | nil => cases hindex
    | cons k xs => exact ⟨hkind, .positional form xs ys (Nat.succ.inj hindex)⟩

theorem turns_decode {kind : Kind} (hkey : key ∉ l.keys) (hkind : n.HasKind kind)
    (h : Extended key value l (.change kind) n m) :
    Turns (l.refusal key) (decode n) (decode m) := by
  cases h with
  | here h =>
    have hne : "kind" ≠ key := by
      rintro rfl
      cases kind <;> exact hkey (by decide)
    obtain ⟨hkind', hbody⟩ := hasKind_of_entryAdded hne h hkind
    rw [decode_of_hasKind hkind, decode_of_hasKind hkind']
    -- what is left has the keys of the change without the one for its kind
    cases kind with
    | createTable =>
      refine .map (.bind_left (turns_fill_of_entryAdded ?_ hbody) _) _
      exact fun hmem => hkey (List.mem_cons_of_mem _ hmem)
    | addColumn | insertRow =>
      refine .bind_left (turns_fill_of_entryAdded ?_ hbody) _
      exact fun hmem => hkey (List.mem_cons_of_mem _ hmem)
  -- within a change, the member that holds the table stands in the body as it does in the change
  | field h item member =>
    obtain ⟨hkind', hbody⟩ := hasKind_of_memberReplaced (by decide) member hkind
    rw [decode_of_hasKind hkind, decode_of_hasKind hkind']
    refine .map (.bind_left (turns_fill_of_memberReplaced rfl rfl (fun d => ?_) hbody) _) _
    exact (turns_asList (Column.turns_decode .change hkey h) item).bind_left _
  | constraint h item member =>
    obtain ⟨hkind', hbody⟩ := hasKind_of_memberReplaced (by decide) member hkind
    rw [decode_of_hasKind hkind, decode_of_hasKind hkind']
    refine .map (.bind_left (turns_fill_of_memberReplaced rfl rfl (fun d => ?_) hbody) _) _
    exact (turns_asList (UniqueConstraint.turns_decode hkey h) item).bind_left _
  | column h member =>
    obtain ⟨hkind', hbody⟩ := hasKind_of_memberReplaced (by decide) member hkind
    rw [decode_of_hasKind hkind, decode_of_hasKind hkind']
    refine .bind_left (turns_fill_of_memberReplaced rfl rfl (fun d => ?_) hbody) _
    exact (Column.turns_decode .change hkey h).bind_left _

end Change

/-! ## Plans and settings -/

theorem Plan.turns_decode (hkey : key ∉ l.keys) (h : Extended key value l .plan n m) :
    Turns (l.refusal key) (decode n) (decode m) := by
  cases h with
  | here h => exact (turns_fill_of_entryAdded hkey h).bind_left _
  | change hkind h item member =>
    refine .bind_left (turns_fill_of_memberReplaced rfl rfl (fun d => ?_) member) _
    exact (turns_asList (Change.turns_decode hkey hkind h) item).bind_left _

theorem Settings.turns_decode (origin : Origin) (hkey : key ∉ l.keys)
    (h : Extended key value l .settings n m) :
    Turns (l.refusal key) (decode origin n) (decode origin m) := by
  cases h with
  | here h => exact (turns_fill_of_entryAdded hkey h).bind_left _

/-- A key that is not declared for its table, with any value and anywhere among the entries, is
refused by name in a change, a column or settings; in a plan, a reference or a constraint it makes no
difference to what is read. -/
theorem unknown_key (hkey : key ∉ l.keys) (value : Node) :
    (∀ n m plan, Extended key value l .plan n m → Plan.decode n = .ok plan →
      Plan.decode m = match l.refusal key with
        | some e => .error e
        | none => .ok plan) ∧
    ∀ origin n m settings, Extended key value l .settings n m →
      Settings.decode origin n = .ok settings →
      Settings.decode origin m = match l.refusal key with
        | some e => .error e
        | none => .ok settings := by
  constructor
  · intro n m plan h hplan
    have hturns := Plan.turns_decode hkey h plan hplan
    rw [hturns]
    cases l.refusal key <;> rfl
  · intro origin n m settings h hsettings
    have hturns := Settings.turns_decode origin hkey h settings hsettings
    rw [hturns]
    cases l.refusal key <;> rfl

/-- A misspelt key is passed over in a reference, and refused in the column that holds it and in
settings. -/
theorem unknown_key_in_column :
    let change (column : List (String × Node)) : Node :=
      .table [("column", .table column), ("kind", .text "add_column"), ("table", .text "t")]
    let document (column : List (String × Node)) : Node :=
      .table [("change", .ofList [change column])]
    let reference : List (String × Node) := [("table", .text "users"), ("field", .text "id")]
    let plan : Plan :=
      { changes := [.addColumn "t"
          ((Column.ordinary "u" .integer).referencing { table := "users", column := "id" })] }
    Plan.decode (document [("name", .text "u"), ("type", .text "integer"),
      ("references", .table (("ondelete", .moment) :: reference))]) = .ok plan ∧
    Plan.decode (document [("name", .text "u"), ("default", .null), ("type", .text "integer"),
      ("references", .table reference)])
      = .error (.unknownKey "default"
          ["name", "type", "allow_null", "unique", "primary_key", "references"]) ∧
    Settings.decode .toml (.table [("terminator", .text ";"), ("terminater", .bool true)])
      = .error (.unknownKey "terminater"
          ["format", "terminator", "migrations_dir", "allow_partial_revert"]) := by
  intro change document reference plan
  have hread : Plan.decode (document [("name", .text "u"), ("type", .text "integer"),
      ("references", .table reference)]) = .ok plan := by rfl
  have hchange (l : Level) (key : String) (value : Node) (column column' : List (String × Node))
      (h : Extended key value l .column (.table column) (.table column')) :
      Extended key value l .plan (document column) (document column') := by
    have hkind : (change column).HasKind .addColumn := rfl
    exact .change hkind (.column h (.keyed [] _)) (.mk _ [] []) (.keyed [] [])
  refine ⟨?_, ?_, ?_⟩
  · have hkey : "ondelete" ∉ Level.reference.keys := by decide
    refine (unknown_key hkey .moment).1 _ _ plan (hchange _ _ _ _ _ ?_) hread
    exact .reference (.here (.mk [] _)) (.keyed [_, _] [])
  · have hkey : "default" ∉ Level.column.keys := by decide
    refine (unknown_key hkey .null).1 _ _ plan (hchange _ _ _ _ _ ?_) hread
    exact .here (.mk [_] _)
  · have hkey : "terminater" ∉ Level.settings.keys := by decide
    exact (unknown_key hkey (.bool true)).2 .toml _ _ Settings.default (.here (.mk [_] [])) rfl

end SchemaEvolution
