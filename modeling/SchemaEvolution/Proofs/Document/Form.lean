import Mathlib.Logic.Function.Basic
import SchemaEvolution.Proofs.Document.Entry

/-!
# The two forms of a record

A record is written as a table with its members under their keys, or as the list of its members in
the order in which they are declared. `Record.Written` says which documents these are, given what
is written for each member. Reading goes through both forms in one way: a list is read as the table
that has its items under the keys (`RecordShape.fill_list`).

If every member is read by itself into a part of the draft of its own (`RecordShape.Parts`), a
document fills a draft exactly if it is written in one of the two forms with what the draft holds
(`RecordShape.Parts.exists_fill_iff`).
-/

namespace SchemaEvolution

/-! ## Written forms -/

/-- What is written for a member of a record. -/
structure Record.Member where
  key : String
  /-- What may stand for the member. -/
  writes : Node → Prop
  /-- Whether the member may be left out. -/
  omits : Prop

namespace Record

/-- A member that has to be there. -/
@[simp] def Member.required (key : String) (writes : Node → Prop) : Member :=
  ⟨key, writes, False⟩

/-- A member that may be left out where it is as by default. -/
@[simp] def Member.optional (key : String) (writes : Node → Prop) (isDefault : Prop) : Member :=
  ⟨key, writes, isDefault⟩

/-- The documents in which a record may be written, with its members in a given order. A record is
closed if its table has no other keys. -/
inductive Written {Key : Type} (order : List Key) (member : Key → Member) (closed : Bool) :
    Node → Prop
  /-- Each member under its key, in any order. -/
  | keyed {entries : List (String × Node)}
    (hgiven : ∀ k n, ((member k).key, n) ∈ entries → (member k).writes n)
    (hothers : closed = true → ∀ e ∈ entries, ∃ k, (member k).key = e.1)
    (homitted : ∀ k, (member k).key ∉ entries.map Prod.fst → (member k).omits) :
    Written order member closed (.table entries)
  /-- The members in their order, without some at the end. -/
  | positional (form : Node.ListForm) {items : List Node} (hlength : items.length ≤ order.length)
    (hgiven : ∀ m ∈ order.zip items, (member m.1).writes m.2)
    (homitted : ∀ k ∈ order.drop items.length, (member k).omits) :
    Written order member closed (.list form items)

end Record

open Record (Written)
open Result (bind_eq_ok map_eq_ok)

/-! ## Values in a document -/

namespace Node

/-- What stands in a list or under the keys of a table. -/
def values : Node → List Node
  | .list _ items => items
  | .table entries => entries.map Prod.snd
  | _ => []

theorem hasDistinctKeys_of_mem_values {n m : Node} (h : n.hasDistinctKeys = true)
    (hm : m ∈ n.values) : m.hasDistinctKeys = true := by
  cases n with
  | list form items => exact hasDistinctKeys_of_mem h m hm
  | table entries =>
    obtain ⟨e, he, rfl⟩ := List.mem_map.mp hm
    exact (hasDistinctKeys_table.mp h).2 e he
  | _ => exact absurd hm List.not_mem_nil

/-- A list in which each item is written for one of some values, in their order. -/
def IsListOf {α : Type} (writes : α → Node → Prop) (as : List α) (n : Node) : Prop :=
  ∃ form items, n = .list form items ∧ List.Forall₂ writes as items

theorem asList_eq_ok_iff {α : Type} {item : Node → Except DecodeError α} {writes : α → Node → Prop}
    {n : Node} (h : ∀ m ∈ n.values, ∀ a, item m = .ok a ↔ writes a m) {as : List α} :
    n.asList item = .ok as ↔ n.IsListOf writes as := by
  cases n with
  | list form items =>
    have hitems : items.mapM item = .ok as ↔ List.Forall₂ writes as items := by
      change ∀ m ∈ items, _ at h
      induction items generalizing as with
      | nil => simp [pure, Except.pure, eq_comm]
      | cons m items ih =>
        obtain ⟨hm, hitems⟩ := List.forall_mem_cons.mp h
        rw [List.mapM_cons, bind_eq_ok]
        simp only [hm, bind_eq_ok, ih hitems, pure, Except.pure, Except.ok.injEq]
        constructor
        · rintro ⟨a, ha, as', has', rfl⟩
          exact .cons ha has'
        · rintro (_ | ⟨ha, has'⟩)
          exact ⟨_, ha, _, has', rfl⟩
    rw [asList, hitems]
    constructor
    · exact fun h => ⟨form, items, rfl, h⟩
    · rintro ⟨_, _, hlist, h⟩
      cases hlist
      exact h
  | _ => simp [asList, IsListOf]

theorem asTexts_eq_ok_iff {n : Node} {texts : List String} :
    n.asTexts = .ok texts ↔ n.IsListOf (fun s m => m = .text s) texts :=
  asList_eq_ok_iff fun _ _ _ => asText_eq_ok_iff

end Node

/-! ## Members in a list -/

section Zip

variable {Key α : Type} {keys : List Key} {items : List α} {k : Key}

/-- The members without an item are those at the end. -/
theorem mem_drop_iff_of_nodup (hkeys : keys.Nodup) (hk : k ∈ keys) :
    k ∈ keys.drop items.length ↔ ∀ n, (k, n) ∉ keys.zip items := by
  induction items generalizing keys with
  | nil => simp [hk]
  | cons i items ih =>
    cases keys with
    | nil => exact absurd hk List.not_mem_nil
    | cons first keys =>
      obtain ⟨hfirst, hkeys⟩ := List.nodup_cons.mp hkeys
      rw [List.length_cons, List.drop_succ_cons, List.zip_cons_cons]
      rcases List.mem_cons.mp hk with rfl | hk
      · exact ⟨fun hmem => absurd (List.mem_of_mem_drop hmem) hfirst,
          fun hnot => absurd List.mem_cons_self (hnot i)⟩
      · have hne : k ≠ first := fun heq => hfirst (heq ▸ hk)
        rw [ih hkeys hk]
        simp [hne]

end Zip

/-! ## One way through both forms -/

namespace RecordShape

variable {Key Draft : Type} {shape : RecordShape Key}
  {put : Draft → Key → Node → Except DecodeError Draft} {holder : Holder} {empty d : Draft}
  {form : RecordForm} {entries : List (String × Node)} {listForm : Node.ListForm}
  {items : List Node} {N : Node}

theorem foldlM_items (hkey : ∀ k, shape.key? (shape.name k) = some k) (items : List Node)
    (d : Draft) :
    (shape.keys.zip items).foldlM (fun d (k, n) => put d k n) d
      = (shape.names.zip items).foldlM (shape.putEntry put) d := by
  have hput : ∀ (d : Draft) (m : Key × Node),
      shape.putEntry put d (Prod.map shape.name id m) = put d m.1 m.2 := by
    intro d m
    simp only [putEntry, Prod.map, hkey, id]
  rw [names, List.zip_map_left, List.foldlM_map]
  simp only [hput]

/-- A list that is not too long is read as the table with its items under the keys. -/
theorem fill_list (hkey : ∀ k, shape.key? (shape.name k) = some k)
    (hlength : items.length ≤ shape.keys.length) :
    shape.fill holder put empty (.list listForm items) =
      (fun filled => (filled.1, .positional items.length)) <$>
        shape.fill holder put empty (.table (shape.names.zip items)) := by
  have hshort : ¬ shape.keys.length < items.length := Nat.not_lt.mpr hlength
  simp only [fill, foldlM_items hkey, hshort, if_false]
  cases (shape.names.zip items).foldlM (shape.putEntry put) empty <;> rfl

/-- A list that is too long is not read, whatever its items are. -/
theorem length_le_of_fill
    (h : shape.fill holder put empty (.list listForm items) = .ok (d, form)) :
    items.length ≤ shape.keys.length := by
  obtain ⟨filled, -, h⟩ := bind_eq_ok.mp h
  by_cases hlong : shape.keys.length < items.length
  · simp only [if_pos hlong] at h
    cases h
  · exact Nat.not_lt.mp hlong

/-- A closed record has no entry that no member belongs to. -/
theorem mem_names_of_fill (hclosed : shape.closed = true)
    (h : shape.fill holder put empty (.table entries) = .ok (d, form)) :
    ∀ e ∈ entries, ∃ k, shape.name k = e.1 := by
  obtain ⟨filled, hfold, -⟩ := bind_eq_ok.mp h
  clear h
  induction entries generalizing empty with
  | nil => exact fun e he => absurd he List.not_mem_nil
  | cons e entries ih =>
    rw [List.foldlM_cons, bind_eq_ok] at hfold
    obtain ⟨next, hnext, hfold⟩ := hfold
    refine List.forall_mem_cons.mpr ⟨?_, ih hfold⟩
    cases hkey : shape.key? e.1 with
    | some k => exact ⟨k, name_of_key? hkey⟩
    | none =>
      rw [putEntry, hkey] at hnext
      simp [hclosed] at hnext

/-! ## Drafts by their parts -/

/-- How a draft is made up of its members: what is read for a member replaces a part of the draft,
and no other part. -/
structure Parts [DecidableEq Key] (shape : RecordShape Key)
    (put : Draft → Key → Node → Except DecodeError Draft) where
  Value : Key → Type
  read : (k : Key) → Node → Except DecodeError (Value k)
  part : (k : Key) → Draft → Value k
  set : (k : Key) → Value k → Draft → Draft
  map_read (d : Draft) (k : Key) (n : Node) : (set k · d) <$> read k n = put d k n
  part_set (k : Key) (v : Value k) (d : Draft) :
    (fun k' => part k' (set k v d)) = Function.update (fun k' => part k' d) k v
  ext {d d' : Draft} (h : ∀ k, part k d = part k d') : d = d'
  key?_name (k : Key) : shape.key? (shape.name k) = some k
  nodup_names : shape.names.Nodup

namespace Parts

variable [DecidableEq Key] (parts : shape.Parts put) {member : Key → Record.Member} {d' : Draft}
  {k k' : Key} {n : Node}

include parts

theorem read_of_put (h : put d k n = .ok d') : parts.read k n = .ok (parts.part k d') := by
  rw [← parts.map_read, map_eq_ok] at h
  obtain ⟨v, hv, rfl⟩ := h
  have hpart := congrFun (parts.part_set k v d) k
  rw [hv, hpart, Function.update_self]

theorem part_of_put (h : put d k n = .ok d') (hne : k' ≠ k) :
    parts.part k' d' = parts.part k' d := by
  rw [← parts.map_read, map_eq_ok] at h
  obtain ⟨v, -, rfl⟩ := h
  have hpart := congrFun (parts.part_set k v d) k'
  rw [hpart, Function.update_of_ne hne]

theorem exists_put {v : parts.Value k} (h : parts.read k n = .ok v) (d : Draft) :
    ∃ d', put d k n = .ok d' := by
  rw [← parts.map_read, h]
  exact ⟨_, rfl⟩

theorem name_inj (h : shape.name k = shape.name k') : k = k' := by
  have hkey := parts.key?_name k
  rw [h, parts.key?_name k'] at hkey
  exact (Option.some.inj hkey).symm

theorem mem_keys (k : Key) : k ∈ shape.keys :=
  List.mem_of_find?_eq_some (parts.key?_name k)

theorem mem_zip_names :
    (shape.name k, n) ∈ shape.names.zip items ↔ (k, n) ∈ shape.keys.zip items := by
  rw [names, List.zip_map_left, List.mem_map]
  constructor
  · rintro ⟨⟨k', n'⟩, hmem, heq⟩
    obtain ⟨hname, rfl⟩ := Prod.mk.inj heq
    rwa [← parts.name_inj hname]
  · exact fun hmem => ⟨(k, n), hmem, rfl⟩

theorem mem_drop_iff (k : Key) :
    k ∈ shape.keys.drop items.length ↔
      shape.name k ∉ (shape.names.zip items).map Prod.fst := by
  have hnodup : shape.keys.Nodup := parts.nodup_names.of_map _
  rw [mem_drop_iff_of_nodup hnodup (parts.mem_keys k)]
  constructor
  · intro h hmem
    obtain ⟨⟨_, n⟩, hn, rfl⟩ := List.mem_map.mp hmem
    exact h n (parts.mem_zip_names.mp hn)
  · intro h n hn
    exact h (List.mem_map.mpr ⟨_, parts.mem_zip_names.mpr hn, rfl⟩)

/-- A list is written for a record exactly if the table with its items under the keys is. -/
theorem written_list_iff (hkey : ∀ k, (member k).key = shape.name k) :
    Written shape.keys member shape.closed (.list listForm items) ↔
      items.length ≤ shape.keys.length ∧
        Written shape.keys member shape.closed (.table (shape.names.zip items)) := by
  constructor
  · rintro (_ | ⟨_, hlength, hgiven, homitted⟩)
    refine ⟨hlength, .keyed ?_ ?_ ?_⟩
    · intro k n hn
      rw [hkey] at hn
      exact hgiven (k, n) (parts.mem_zip_names.mp hn)
    · intro _ e he
      obtain ⟨k, -, hname⟩ := List.mem_map.mp (List.of_mem_zip he).1
      exact ⟨k, (hkey k).trans hname⟩
    · intro k hk
      rw [hkey] at hk
      exact homitted k ((parts.mem_drop_iff k).mpr hk)
  · rintro ⟨hlength, _ | _⟩
    rename_i hgiven hothers homitted
    refine .positional listForm hlength ?_ ?_
    · intro m hm
      refine hgiven m.1 m.2 ?_
      rw [hkey]
      exact parts.mem_zip_names.mpr hm
    · intro k hk
      refine homitted k ?_
      rw [hkey]
      exact (parts.mem_drop_iff k).mp hk

theorem nodup_zip_names : ((shape.names.zip items).map Prod.fst).Nodup := by
  rw [List.zip_eq_zip_take_min, List.map_fst_zip (by simp)]
  exact parts.nodup_names.sublist (List.take_sublist _ _)

/-- What a table with distinct keys is read as, part by part. -/
theorem part_of_fill (hnodup : (entries.map Prod.fst).Nodup)
    (hfill : shape.fill holder put empty (.table entries) = .ok (d, form)) (k : Key) :
    (∀ n, (shape.name k, n) ∈ entries → parts.read k n = .ok (parts.part k d)) ∧
    (shape.name k ∉ entries.map Prod.fst → parts.part k d = parts.part k empty) := by
  have hgiven := given?_of_fill (parts.part k) (fun n v => parts.read k n = .ok v)
    (fun _ _ _ h => parts.read_of_put h) (fun _ _ _ _ hne h => parts.part_of_put h hne.symm) hfill
  have htable : ∀ {n}, shape.given? (.table entries) k = some n ↔ (shape.name k, n) ∈ entries :=
    given?_table (parts.key?_name k) hnodup
  constructor
  · intro n hn
    rw [htable.mpr hn] at hgiven
    exact hgiven
  · intro hk
    have hnone : shape.given? (.table entries) k = none := by
      apply Option.eq_none_iff_forall_ne_some.mpr
      intro n hn
      exact hk (List.mem_map.mpr ⟨_, htable.mp hn, rfl⟩)
    rw [hnone] at hgiven
    exact hgiven

/-- A table whose members can be read fills some draft. -/
theorem exists_fill (hread : ∀ k n, (shape.name k, n) ∈ entries → ∃ v, parts.read k n = .ok v)
    (hothers : shape.closed = true → ∀ e ∈ entries, ∃ k, shape.name k = e.1) (holder : Holder)
    (empty : Draft) : ∃ d form, shape.fill holder put empty (.table entries) = .ok (d, form) := by
  have haccepts : ∀ e ∈ entries, shape.Accepts put e := by
    intro e he d
    cases hkey : shape.key? e.1 with
    | some k =>
      obtain ⟨v, hv⟩ := hread k e.2 (by rwa [name_of_key? hkey])
      obtain ⟨d', hd'⟩ := parts.exists_put hv d
      exact ⟨d', by rw [putEntry, hkey]; exact hd'⟩
    | none =>
      have hopen : shape.closed = false := by
        apply Bool.eq_false_iff.mpr
        intro hclosed
        obtain ⟨k, hk⟩ := hothers hclosed e he
        rw [← hk, parts.key?_name] at hkey
        cases hkey
      exact ⟨d, by rw [putEntry, hkey]; simp [hopen]⟩
  obtain ⟨d, hd⟩ := exists_foldlM haccepts empty
  exact ⟨d, .keyed, by rw [fill, hd]; rfl⟩

theorem exists_fill_table_iff (hnodup : (entries.map Prod.fst).Nodup)
    (hkey : ∀ k, (member k).key = shape.name k)
    (hwrites : ∀ k, ∀ n ∈ (Node.table entries).values,
      (member k).writes n ↔ parts.read k n = .ok (parts.part k d))
    (homits : ∀ k, (member k).omits ↔ parts.part k d = parts.part k empty) :
    (∃ form, shape.fill holder put empty (.table entries) = .ok (d, form)) ↔
      Written shape.keys member shape.closed (.table entries) := by
  have hvalue : ∀ {k n}, (shape.name k, n) ∈ entries →
      ((member k).writes n ↔ parts.read k n = .ok (parts.part k d)) :=
    fun hn => hwrites _ _ (List.mem_map.mpr ⟨_, hn, rfl⟩)
  constructor
  · rintro ⟨form, hfill⟩
    refine .keyed ?_ ?_ ?_
    · intro k n hn
      rw [hkey] at hn
      exact (hvalue hn).mpr ((parts.part_of_fill hnodup hfill k).1 n hn)
    · intro hclosed e he
      obtain ⟨k, hk⟩ := mem_names_of_fill hclosed hfill e he
      exact ⟨k, (hkey k).trans hk⟩
    · intro k hk
      rw [hkey] at hk
      exact (homits k).mpr ((parts.part_of_fill hnodup hfill k).2 hk)
  · rintro (⟨hgiven, hothers, homitted⟩ | _)
    simp only [hkey] at hgiven hothers homitted
    have hread : ∀ k n, (shape.name k, n) ∈ entries → parts.read k n = .ok (parts.part k d) :=
      fun k n hn => (hvalue hn).mp (hgiven k n hn)
    obtain ⟨d', form, hfill⟩ :=
      parts.exists_fill (fun k n hn => ⟨_, hread k n hn⟩) hothers holder empty
    -- each part of the draft is what is written for it, or as it was
    have hsame : d' = d := by
      apply parts.ext
      intro k
      obtain ⟨hgiven', homitted'⟩ := parts.part_of_fill hnodup hfill k
      by_cases hk : shape.name k ∈ entries.map Prod.fst
      · obtain ⟨⟨_, n⟩, hn, rfl⟩ := List.mem_map.mp hk
        exact Except.ok.inj ((hgiven' n hn).symm.trans (hread k n hn))
      · exact (homitted' hk).trans ((homits k).mp (homitted k hk)).symm
    exact ⟨form, hsame ▸ hfill⟩

/-- A document fills a draft exactly if it is written, in either form, with what the draft holds. -/
theorem exists_fill_iff (hdistinct : N.hasDistinctKeys = true)
    (hmoment : N ≠ .moment) (hkey : ∀ k, (member k).key = shape.name k)
    (hwrites : ∀ k, ∀ n ∈ N.values, (member k).writes n ↔ parts.read k n = .ok (parts.part k d))
    (homits : ∀ k, (member k).omits ↔ parts.part k d = parts.part k empty) :
    (∃ form, shape.fill holder put empty N = .ok (d, form)) ↔
      Written shape.keys member shape.closed N := by
  cases N with
  | table entries =>
    have hnodup := (Node.hasDistinctKeys_table.mp hdistinct).1
    exact parts.exists_fill_table_iff hnodup hkey hwrites homits
  | list listForm items =>
    have hvalues : ∀ n ∈ (Node.table (shape.names.zip items)).values, n ∈ items := by
      intro n hn
      obtain ⟨e, he, rfl⟩ := List.mem_map.mp hn
      exact (List.of_mem_zip he).2
    rw [parts.written_list_iff hkey, ← parts.exists_fill_table_iff parts.nodup_zip_names hkey
      (fun k n hn => hwrites k n (hvalues n hn)) homits]
    constructor
    · rintro ⟨form, hfill⟩
      have hlength := length_le_of_fill hfill
      rw [fill_list parts.key?_name hlength, map_eq_ok] at hfill
      obtain ⟨⟨d', form'⟩, hfill, heq⟩ := hfill
      cases heq
      exact ⟨hlength, form', hfill⟩
    · rintro ⟨hlength, form, hfill⟩
      rw [fill_list parts.key?_name hlength, hfill]
      exact ⟨_, rfl⟩
  | moment => exact absurd rfl hmoment
  | _ =>
    constructor
    · rintro ⟨form, hfill⟩
      cases hfill
    · intro h
      cases h

/-- What is read from a filled draft is read from exactly the documents that are written with what
its draft holds. -/
theorem fill_bind_eq_ok_iff {α : Type} {a : α}
    (finish : Draft → RecordForm → Except DecodeError α) (member : Key → Record.Member)
    (hfinish : ∀ {d' form}, finish d' form = .ok a ↔ d' = d)
    (hmoment : (do
      let (d, form) ← shape.fill holder put empty .moment
      finish d form) ≠ .ok a)
    (hdistinct : N.hasDistinctKeys = true) (hkey : ∀ k, (member k).key = shape.name k)
    (hwrites : ∀ k, ∀ n ∈ N.values, (member k).writes n ↔ parts.read k n = .ok (parts.part k d))
    (homits : ∀ k, (member k).omits ↔ parts.part k d = parts.part k empty) :
    (do
      let (d, form) ← shape.fill holder put empty N
      finish d form) = .ok a ↔ Written shape.keys member shape.closed N := by
  by_cases hN : N = .moment
  · subst hN
    exact ⟨fun h => absurd h hmoment, nofun⟩
  · rw [← parts.exists_fill_iff hdistinct hN hkey hwrites homits, bind_eq_ok]
    constructor
    · rintro ⟨⟨d', form⟩, hfill, h⟩
      rw [hfinish.mp h] at hfill
      exact ⟨form, hfill⟩
    · rintro ⟨form, hfill⟩
      exact ⟨(d, form), hfill, hfinish.mpr rfl⟩

/-- A list that changes a part of the draft reaches to the member for it. -/
theorem lt_length_of_fill {index : Nat}
    (hindex : shape.keys[index]? = some k)
    (hfill : shape.fill holder put empty (.list listForm items) = .ok (d, form))
    (hpart : parts.part k d ≠ parts.part k empty) : index < items.length := by
  by_contra hshort
  rw [fill_list parts.key?_name (length_le_of_fill hfill), map_eq_ok] at hfill
  obtain ⟨⟨d', form'⟩, hfill, heq⟩ := hfill
  cases heq
  -- there is no item for the member, so its part is as it was
  have hk : k ∈ shape.keys.drop items.length := by
    apply List.mem_of_getElem? (i := index - items.length)
    rw [List.getElem?_drop, Nat.add_sub_cancel' (Nat.not_lt.mp hshort), hindex]
  exact hpart ((parts.part_of_fill parts.nodup_zip_names hfill k).2 ((parts.mem_drop_iff k).mp hk))

/-- A list from which something is read has an item for each member that has to be there, and no
more items than there are members. -/
theorem length_of_fill_bind {α : Type} {a : α}
    (finish : Draft → RecordForm → Except DecodeError α)
    (hfinish : ∀ {d' form}, finish d' form = .ok a ↔ d' = d)
    (h : (do
      let (d, form) ← shape.fill holder put empty (.list listForm items)
      finish d form) = .ok a)
    (index : Nat) (hindex : shape.keys[index]? = some k)
    (hpart : parts.part k d ≠ parts.part k empty) :
    index < items.length ∧ items.length ≤ shape.keys.length := by
  obtain ⟨⟨d', form⟩, hfill, h⟩ := bind_eq_ok.mp h
  rw [hfinish.mp h] at hfill
  exact ⟨parts.lt_length_of_fill hindex hfill hpart, length_le_of_fill hfill⟩

end Parts

end RecordShape

end SchemaEvolution
