import SchemaEvolution.Proofs.Document.ColumnReading
import SchemaEvolution.Proofs.Document.Kind
import SchemaEvolution.Proofs.Document.Reordering

/-!
# The order of keys carries no meaning

The readers of references, columns, constraints, tables, changes and plans give the same value for a
document and for every reordering of it, or refuse both. For a record this takes two facts: the reader
of each member is free of order, and the members commute. A constraint and a change look some of
their keys up, wherever these stand.

Main results:

* `Plan.orderFree_decode`: the reader of plans is free of order;
* `Change.decode_of_bad_kind`: a change of no known kind is refused for its kind, in any order;
* `Plan.decode_reordered`: the statement about documents.
-/

namespace SchemaEvolution

open DecodeError (toOption_bind toOption_eq_some toOption_pure)
open Node (OrderFree Reordered hasDistinctKeys_of_mem hasDistinctKeys_table)
open RecordShape (Commutes orderFree_fill)

/-! ## References and columns -/

namespace ForeignKey

theorem orderFree_action : OrderFree action :=
  Node.orderFree_asText.bind _

theorem orderFree_put (d : Draft) (k : Key) : OrderFree (Draft.put d k) := by
  cases k with
  | table | field => exact Node.orderFree_asText.bind _
  | onDelete | onUpdate => exact orderFree_action.bind _

theorem commutes_put : Commutes Draft.put := by
  intro d k k' n n' hne
  cases k <;> cases k' <;> first
    | exact absurd rfl hne
    | simp only [Draft.put, toOption_bind, toOption_pure, Option.bind_assoc, Option.bind_some]
      exact Option.bind_comm _ _

theorem orderFree_decode (holder : Holder) : OrderFree (decode holder) :=
  (orderFree_fill orderFree_put commutes_put holder {}).bind _

end ForeignKey

namespace Column

variable {holder : Holder}

theorem orderFree_typeOf : OrderFree typeOf :=
  Node.orderFree_asText.bind _

theorem orderFree_put (d : Draft) (k : Key) : OrderFree (Draft.put holder d k) := by
  cases k with
  | name => exact Node.orderFree_asText.bind _
  | type => exact orderFree_typeOf.bind _
  | allowNull | unique | primaryKey => exact Node.orderFree_asBool.bind _
  | references => exact (ForeignKey.orderFree_decode holder).asOption.bind _

theorem commutes_put : Commutes (Draft.put holder) := by
  intro d k k' n n' hne
  cases k <;> cases k' <;> first
    | exact absurd rfl hne
    | simp only [Draft.put, toOption_bind, toOption_pure, Option.bind_assoc, Option.bind_some]
      exact Option.bind_comm _ _

theorem orderFree_decode (holder : Holder) : OrderFree (decode holder) := by
  have hraw : OrderFree (Raw.decode holder) :=
    (orderFree_fill orderFree_put commutes_put holder {}).bind _
  intro n m hn hnm
  have hsame := hraw hn hnm
  refine Option.ext fun c => ?_
  rw [toOption_eq_some, toOption_eq_some, decode_eq_ok_iff_toRaw, decode_eq_ok_iff_toRaw,
    ← toOption_eq_some, ← toOption_eq_some, hsame]

end Column

/-! ## Constraints and tables -/

namespace UniqueConstraint

theorem toOption_columnsOf {xs zs : List (String × Node)}
    (hx : (Node.table xs).hasDistinctKeys = true) (h : Reordered (.table xs) (.table zs)) :
    (columnsOf xs).toOption = (columnsOf zs).toOption := by
  unfold columnsOf
  rcases h.lookup hx "unique" with ⟨hn, hm⟩ | ⟨n, m, hn, hm, hdistinct, hnm⟩
  · rw [hn, hm]
  · rw [hn, hm]
    exact Node.orderFree_asTexts hdistinct hnm

theorem orderFree_decode : OrderFree decode := by
  intro n m hn hnm
  cases n with
  | table xs =>
    obtain ⟨zs, rfl⟩ := hnm.exists_table
    have hcolumns := toOption_columnsOf hn hnm
    rcases hnm.lookup hn "name" with ⟨hx, hz⟩ | ⟨x, z, hx, hz, hdistinct, hxz⟩
    · simp only [decode, hx, hz]
    · have hname := Node.orderFree_asText hdistinct hxz
      simp only [decode, hx, hz, toOption_bind, hname, hcolumns]
  | _ => cases hnm <;> rfl

end UniqueConstraint

namespace Table

variable {holder : Holder}

theorem orderFree_put (d : Draft) (k : Key) : OrderFree (Draft.put holder d k) := by
  cases k with
  | name => exact Node.orderFree_asText.bind _
  | fields => exact (Column.orderFree_decode holder).asList.bind _
  | primaryKey => exact Node.orderFree_asTexts.bind _
  | constraints => exact UniqueConstraint.orderFree_decode.asList.bind _

theorem commutes_put : Commutes (Draft.put holder) := by
  intro d k k' n n' hne
  cases k <;> cases k' <;> first
    | exact absurd rfl hne
    | simp only [Draft.put, toOption_bind, toOption_pure, Option.bind_assoc, Option.bind_some]
      exact Option.bind_comm _ _

theorem orderFree_decode (holder : Holder) : OrderFree (decode holder) :=
  (orderFree_fill orderFree_put commutes_put holder {}).bind _

end Table

/-! ## Changes -/

namespace Change

theorem ColumnDraft.orderFree_put (d : ColumnDraft) (k : ColumnKey) : OrderFree (d.put k) := by
  cases k with
  | table => exact Node.orderFree_asText.bind _
  | column => exact (Column.orderFree_decode .change).bind _

theorem ColumnDraft.commutes_put : Commutes ColumnDraft.put := by
  intro d k k' n n' hne
  cases k <;> cases k' <;> first
    | exact absurd rfl hne
    | simp only [ColumnDraft.put, toOption_bind, toOption_pure, Option.bind_assoc,
        Option.bind_some]
      exact Option.bind_comm _ _

theorem RowDraft.orderFree_put (d : RowDraft) (k : RowKey) : OrderFree (d.put k) := by
  cases k with
  | table => exact Node.orderFree_asText.bind _
  | values => exact Node.orderFree_asTexts.bind _

theorem RowDraft.commutes_put : Commutes RowDraft.put := by
  intro d k k' n n' hne
  cases k <;> cases k' <;> first
    | exact absurd rfl hne
    | simp only [RowDraft.put, toOption_bind, toOption_pure, Option.bind_assoc, Option.bind_some]
      exact Option.bind_comm _ _

theorem orderFree_decodeBody (kind : Kind) : OrderFree fun body => decodeBody body kind := by
  cases kind with
  | createTable =>
    intro n m hn hnm
    simp only [decodeBody, map_eq_pure_bind]
    exact (Table.orderFree_decode .change).bind _ hn hnm
  | addColumn =>
    exact (orderFree_fill ColumnDraft.orderFree_put ColumnDraft.commutes_put .change {}).bind _
  | insertRow =>
    exact (orderFree_fill RowDraft.orderFree_put RowDraft.commutes_put .change {}).bind _

theorem Kind.decode_eq_of_reordered {n m : Node} (h : Reordered n m) : decode n = decode m := by
  cases h <;> rfl

theorem orderFree_decode : OrderFree decode := by
  intro n m hn hnm
  cases n with
  | table xs =>
    obtain ⟨zs, rfl⟩ := hnm.exists_table
    have hbody := hnm.filter kindKey
    have hdistinct := Node.hasDistinctKeys_filter kindKey hn
    -- the kind is the same in both, and so is what is read as its body
    rcases hnm.lookup hn kindKey with ⟨hx, hz⟩ | ⟨x, z, hx, hz, -, hxz⟩
    · simp only [decode, hx, hz]
    · simp only [decode, hx, hz, Kind.decode_eq_of_reordered hxz, toOption_bind]
      congr 1
      funext kind
      exact orderFree_decodeBody kind hdistinct hbody
  | list form items =>
    cases hnm with
    | same => rfl
    | list _ items =>
      cases items with
      | nil => rfl
      | @cons x z xs zs hhead htail =>
        have hdistinct : (Node.list form xs).hasDistinctKeys = true := by
          rw [Node.hasDistinctKeys, Node.haveDistinctKeys, Bool.and_eq_true] at hn
          exact hn.2
        simp only [decode, Kind.decode_eq_of_reordered hhead, toOption_bind]
        congr 1
        funext kind
        exact orderFree_decodeBody kind hdistinct (.list form htail)
  | _ =>
    cases hnm
    rfl

/-- A change that is not of a known kind is refused for its kind, in whichever order its entries
stand and whatever else is wrong with them. -/
theorem decode_of_bad_kind {xs zs : List (String × Node)}
    (hx : (Node.table xs).hasDistinctKeys = true) (h : Reordered (.table xs) (.table zs))
    (hkind : ∀ kind : Kind, ("kind", Node.text kind.name) ∉ xs) :
    decode (.table zs) = .error (kindError (xs.lookup "kind")) := by
  rcases h.lookup hx "kind" with ⟨hn, hm⟩ | ⟨n, m, hn, hm, -, hnm⟩
  · simp only [decode, kindKey, hn, hm]
    rfl
  · have hbad : ∀ kind : Kind, n ≠ .text kind.name := by
      rintro kind rfl
      exact hkind kind (Node.mem_of_lookup hn)
    have herror := Kind.decode_eq_error hbad
    rw [Kind.decode_eq_of_reordered hnm] at herror
    simp only [decode, kindKey, hn, hm, herror]
    rfl

end Change

/-! ## Plans -/

namespace Plan

theorem orderFree_put (p : Plan) (k : Key) : OrderFree (p.put k) := by
  cases k with
  | name | description => exact Node.orderFree_asText.asOption.bind _
  | change => exact Change.orderFree_decode.asList.bind _

theorem commutes_put : Commutes put := by
  intro d k k' n n' hne
  cases k <;> cases k' <;> first
    | exact absurd rfl hne
    | simp only [put, toOption_bind, toOption_pure, Option.bind_assoc, Option.bind_some]
      exact Option.bind_comm _ _

theorem orderFree_decode : OrderFree decode :=
  (orderFree_fill orderFree_put commutes_put .document {}).bind _

/-- The order of the entries of a document, in tables at any depth, has no meaning: the same plan is
read from it and from every reordering, or none from either. A change that is not of a known kind is
refused in any order, with an error about what stands under `kind` alone. -/
theorem decode_reordered {n m : Node} (hn : n.hasDistinctKeys = true) (h : Reordered n m) :
    (∀ p, decode n = .ok p ↔ decode m = .ok p) ∧
    ∀ entries, n = .table entries →
      (∀ kind : Change.Kind, ("kind", Node.text kind.name) ∉ entries) →
      Change.decode n = .error (Change.kindError (entries.lookup "kind")) ∧
        Change.decode m = .error (Change.kindError (entries.lookup "kind")) := by
  constructor
  · intro p
    have hsame := orderFree_decode hn h
    rw [← DecodeError.toOption_eq_some, ← DecodeError.toOption_eq_some, hsame]
  · rintro entries rfl hkind
    obtain ⟨zs, rfl⟩ := h.exists_table
    exact ⟨Change.decode_of_bad_kind hn (.same _) hkind, Change.decode_of_bad_kind hn h hkind⟩

theorem decode_reordered_column :
    (∀ p,
      decode (.table
        [("name", .text "first"),
         ("change", .ofList
          [.table
            [("kind", .text "add_column"), ("table", .text "t"),
             ("column", .table [("name", .text "c"), ("type", .text "date")])]])]) = .ok p ↔
      decode (.table
        [("change", .ofList
          [.table
            [("table", .text "t"), ("kind", .text "add_column"),
             ("column", .table [("type", .text "date"), ("name", .text "c")])]]),
         ("name", .text "first")]) = .ok p) ∧
    Change.decode (.table [("kind", .text "drop_table"), ("table", .bool true)])
      = .error (.unknownChoice "drop_table" ["create_table", "add_column", "insert_row"]) ∧
    Change.decode (.table [("table", .bool true), ("kind", .text "drop_table")])
      = .error (.unknownChoice "drop_table" ["create_table", "add_column", "insert_row"]) := by
  have hsame (key : String) (n : Node) : Node.EntryReordered (key, n) (key, n) := .mk key (.same n)
  constructor
  · refine (decode_reordered (by decide) ?_).1
    have hcolumn : Reordered (.table [("name", .text "c"), ("type", .text "date")])
        (.table [("type", .text "date"), ("name", .text "c")]) :=
      .table (.cons (hsame _ _) (.cons (hsame _ _) .nil)) (.swap _ _ [])
    have hchange := Reordered.table
      (.cons (hsame "kind" (.text "add_column")) (.cons (hsame "table" (.text "t"))
        (.cons (.mk "column" hcolumn) .nil)))
      (.swap _ _ _)
    exact .table
      (.cons (hsame _ _) (.cons (.mk _ (.list _ (.cons hchange .nil))) .nil)) (.swap _ _ [])
  · refine (decode_reordered (by decide) ?_).2 _ rfl fun kind => ?_
    · exact .table (.cons (hsame _ _) (.cons (hsame _ _) .nil)) (.swap _ _ [])
    · cases kind <;> simp [Change.Kind.name]

end Plan

end SchemaEvolution
