import Mathlib.Data.List.Forall2
import Mathlib.Data.List.Nodup
import SchemaEvolution.Proofs.Document.Member

/-!
# Documents in another order

`Node.Reordered` relates a document to those that give the same entries in another order, in tables
at any depth. A reader is `Node.OrderFree` if it succeeds on both or on neither, with the same value;
its errors may differ, since the first bad entry decides them. Readers of single values are, and a
reader for a record is if those of its members are and the members do not get in each other's way
(`RecordShape.Commutes`).
-/

namespace SchemaEvolution

namespace Node

/-! ## Reordered documents -/

mutual

/-- The same document up to the order of entries, in tables at any depth. -/
inductive Reordered : Node → Node → Prop
  | same (n : Node) : Reordered n n
  | list (form : ListForm) {xs ys : List Node} (items : List.Forall₂ Reordered xs ys) :
    Reordered (.list form xs) (.list form ys)
  | table {xs ys zs : List (String × Node)} (values : List.Forall₂ EntryReordered xs ys)
    (order : ys.Perm zs) : Reordered (.table xs) (.table zs)

/-- An entry with the same key whose value is reordered. -/
inductive EntryReordered : String × Node → String × Node → Prop
  | mk (key : String) {n m : Node} (value : Reordered n m) : EntryReordered (key, n) (key, m)

end

mutual

/-- Whether no table in a document has a key twice. -/
def hasDistinctKeys : Node → Bool
  | .list _ items => haveDistinctKeys items
  | .table entries => decide (entries.map Prod.fst).Nodup && valuesHaveDistinctKeys entries
  | _ => true

/-- Whether no table in one of the documents has a key twice. -/
def haveDistinctKeys : List Node → Bool
  | [] => true
  | n :: ns => n.hasDistinctKeys && haveDistinctKeys ns

/-- Whether no table under one of the keys has a key twice. -/
def valuesHaveDistinctKeys : List (String × Node) → Bool
  | [] => true
  | (_, n) :: entries => n.hasDistinctKeys && valuesHaveDistinctKeys entries

end

theorem hasDistinctKeys_of_mem {form : ListForm} {items : List Node}
    (h : (list form items).hasDistinctKeys = true) : ∀ n ∈ items, n.hasDistinctKeys = true := by
  rw [hasDistinctKeys] at h
  induction items with
  | nil => exact fun n hn => absurd hn List.not_mem_nil
  | cons m items ih =>
    rw [haveDistinctKeys, Bool.and_eq_true] at h
    intro n hn
    rcases List.mem_cons.mp hn with rfl | hn
    · exact h.1
    · exact ih h.2 n hn

theorem valuesHaveDistinctKeys_iff {entries : List (String × Node)} :
    valuesHaveDistinctKeys entries = true ↔ ∀ e ∈ entries, e.2.hasDistinctKeys = true := by
  induction entries with
  | nil => simp [valuesHaveDistinctKeys]
  | cons e entries ih => simp [valuesHaveDistinctKeys, ih]

theorem hasDistinctKeys_table {entries : List (String × Node)} :
    (table entries).hasDistinctKeys = true ↔
      (entries.map Prod.fst).Nodup ∧ ∀ e ∈ entries, e.2.hasDistinctKeys = true := by
  rw [hasDistinctKeys, Bool.and_eq_true, decide_eq_true_iff, valuesHaveDistinctKeys_iff]

theorem map_fst_of_reordered {xs ys : List (String × Node)}
    (h : List.Forall₂ EntryReordered xs ys) : xs.map Prod.fst = ys.map Prod.fst := by
  induction h with
  | nil => rfl
  | cons he _ ih =>
    cases he
    rw [List.map_cons, List.map_cons, ih]

theorem Reordered.exists_table {xs : List (String × Node)} {m : Node}
    (h : Reordered (.table xs) m) : ∃ zs, m = .table zs := by
  cases h with
  | same => exact ⟨xs, rfl⟩
  | table _ _ => exact ⟨_, rfl⟩

/-! ## Single entries -/

theorem lookup_reordered {xs ys : List (String × Node)} (key : String)
    (h : List.Forall₂ EntryReordered xs ys) :
    Option.Rel Reordered (xs.lookup key) (ys.lookup key) := by
  induction h with
  | nil => exact .none
  | cons he _ ih =>
    obtain ⟨k, hvalue⟩ := he
    rw [List.lookup_cons, List.lookup_cons]
    cases key == k with
    | true => exact .some hvalue
    | false => exact ih

theorem mem_of_lookup {entries : List (String × Node)} {key : String} {n : Node}
    (h : entries.lookup key = some n) : (key, n) ∈ entries := by
  obtain ⟨before, after, rfl, -⟩ := List.lookup_eq_some_iff.mp h
  simp

theorem lookup_of_mem {entries : List (String × Node)} {key : String} {n : Node}
    (hnodup : (entries.map Prod.fst).Nodup) (h : (key, n) ∈ entries) :
    entries.lookup key = some n := by
  cases hm : entries.lookup key with
  | none => exact absurd (List.lookup_eq_none_iff.mp hm (key, n) h) (by simp)
  | some m =>
    have heq := List.inj_on_of_nodup_map hnodup (mem_of_lookup hm) h rfl
    rw [(Prod.mk.inj heq).2]

theorem lookup_perm {entries entries' : List (String × Node)} (key : String)
    (hnodup : (entries.map Prod.fst).Nodup) (h : entries.Perm entries') :
    entries.lookup key = entries'.lookup key := by
  have hnodup' : (entries'.map Prod.fst).Nodup := (h.map Prod.fst).nodup_iff.mp hnodup
  cases hn : entries.lookup key with
  | some n => exact (lookup_of_mem hnodup' (h.subset (mem_of_lookup hn))).symm
  | none =>
    cases hm : entries'.lookup key with
    | none => rfl
    | some m =>
      rw [lookup_of_mem hnodup (h.symm.subset (mem_of_lookup hm))] at hn
      exact absurd hn (Option.some_ne_none m)

/-- A key is given by both tables or by neither, and what stands under it is reordered itself. -/
theorem Reordered.lookup {xs zs : List (String × Node)}
    (hx : (Node.table xs).hasDistinctKeys = true) (h : Reordered (.table xs) (.table zs))
    (key : String) :
    (xs.lookup key = none ∧ zs.lookup key = none) ∨
      ∃ n m, xs.lookup key = some n ∧ zs.lookup key = some m ∧ n.hasDistinctKeys = true ∧
        Reordered n m := by
  obtain ⟨hnodup, hdistinct⟩ := hasDistinctKeys_table.mp hx
  have hrel : Option.Rel Reordered (xs.lookup key) (zs.lookup key) := by
    cases h with
    | same =>
      cases xs.lookup key with
      | none => exact .none
      | some n => exact .some (.same n)
    | table values order =>
      -- keys are distinct after the values have been exchanged too, so moving entries is harmless
      rw [map_fst_of_reordered values] at hnodup
      rw [← lookup_perm key hnodup order]
      exact lookup_reordered key values
  cases hn : xs.lookup key with
  | none =>
    rw [hn] at hrel
    cases hm : zs.lookup key with
    | none => exact .inl ⟨rfl, rfl⟩
    | some m =>
      rw [hm] at hrel
      cases hrel
  | some n =>
    rw [hn] at hrel
    cases hm : zs.lookup key with
    | none =>
      rw [hm] at hrel
      cases hrel
    | some m =>
      rw [hm] at hrel
      cases hrel with
      | some hnm => exact .inr ⟨n, m, rfl, rfl, hdistinct _ (mem_of_lookup hn), hnm⟩

/-- Without the entries for a key, a reordered table is still reordered. -/
theorem Reordered.filter {xs zs : List (String × Node)} (h : Reordered (.table xs) (.table zs))
    (key : String) :
    Reordered (.table (xs.filter (·.1 != key))) (.table (zs.filter (·.1 != key))) := by
  cases h with
  | same => exact .same _
  | @table _ ys _ values order =>
    have hkeys : ∀ {e e' : String × Node}, EntryReordered e e' →
        ((e.1 != key) = true ↔ (e'.1 != key) = true) := by
      intro e e' he
      obtain ⟨k, _⟩ := he
      exact Iff.rfl
    have hvalues := List.rel_filter (fun _ _ he => hkeys he) values
    exact .table hvalues (order.filter _)

theorem hasDistinctKeys_filter {entries : List (String × Node)} (key : String)
    (h : (table entries).hasDistinctKeys = true) :
    (table (entries.filter (·.1 != key))).hasDistinctKeys = true := by
  obtain ⟨hnodup, hdistinct⟩ := hasDistinctKeys_table.mp h
  exact hasDistinctKeys_table.mpr
    ⟨hnodup.sublist (List.filter_sublist.map Prod.fst),
      fun e he => hdistinct e (List.mem_of_mem_filter he)⟩

/-! ## Readers -/

/-- Whether a reader gives the same value, or none, for documents that differ in order only. -/
def OrderFree {α : Type} (read : Node → Except DecodeError α) : Prop :=
  ∀ ⦃n m : Node⦄, n.hasDistinctKeys = true → Reordered n m → (read n).toOption = (read m).toOption

end Node

theorem DecodeError.toOption_bind {α β : Type} (x : Except DecodeError α)
    (f : α → Except DecodeError β) :
    (x >>= f).toOption = x.toOption.bind fun a => (f a).toOption := by
  cases x <;> rfl

theorem DecodeError.toOption_eq_some {α : Type} {x : Except DecodeError α} {a : α} :
    x.toOption = some a ↔ x = .ok a := by
  cases x with
  | error e => exact ⟨(nomatch ·), (nomatch ·)⟩
  | ok b => exact ⟨fun h => congrArg _ (Option.some.inj h), fun h => congrArg _ (Except.ok.inj h)⟩

theorem DecodeError.toOption_pure {α : Type} (a : α) :
    (pure a : Except DecodeError α).toOption = some a :=
  rfl

open DecodeError (toOption_bind)

namespace Node

variable {α β : Type} {read : Node → Except DecodeError α}

theorem OrderFree.bind (h : OrderFree read) (f : α → Except DecodeError β) :
    OrderFree fun n => read n >>= f := by
  intro n m hn hnm
  rw [toOption_bind, toOption_bind, h hn hnm]

theorem orderFree_asText : OrderFree asText := by
  intro n m _ hnm
  cases hnm <;> rfl

theorem orderFree_asBool : OrderFree asBool := by
  intro n m _ hnm
  cases hnm <;> rfl

theorem toOption_mapM_reordered {xs ys : List Node} (hread : OrderFree read)
    (hxs : ∀ n ∈ xs, n.hasDistinctKeys = true) (h : List.Forall₂ Reordered xs ys) :
    (xs.mapM read).toOption = (ys.mapM read).toOption := by
  induction h with
  | nil => rfl
  | @cons n m xs ys hnm _ ih =>
    have hhead := hread (hxs n List.mem_cons_self) hnm
    have htail := ih fun n hn => hxs n (List.mem_cons_of_mem _ hn)
    simp only [List.mapM_cons, toOption_bind, hhead, htail]

theorem OrderFree.asList (hread : OrderFree read) : OrderFree fun n => n.asList read := by
  intro n m hn hnm
  cases hnm with
  | same => rfl
  | list form items => exact toOption_mapM_reordered hread (hasDistinctKeys_of_mem hn) items
  | table => rfl

theorem orderFree_asTexts : OrderFree asTexts :=
  orderFree_asText.asList

theorem OrderFree.asOption (hread : OrderFree read) : OrderFree fun n => n.asOption read := by
  intro n m hn hnm
  cases hnm with
  | same => rfl
  -- neither a list nor a table is a null, so both are read
  | list form items =>
    exact (hread.bind fun a => .ok (some a)) hn (.list form items)
  | table values order =>
    exact (hread.bind fun a => .ok (some a)) hn (.table values order)

end Node

/-! ## Records -/

namespace RecordShape

open Node (OrderFree Reordered EntryReordered)

variable {Key Draft : Type} {shape : RecordShape Key}
  {put : Draft → Key → Node → Except DecodeError Draft}

/-- Whether members of different keys may be put into a draft in either order. -/
def Commutes (put : Draft → Key → Node → Except DecodeError Draft) : Prop :=
  ∀ (d : Draft) (k k' : Key) (n n' : Node), k ≠ k' →
    (put d k n >>= fun d => put d k' n').toOption = (put d k' n' >>= fun d => put d k n).toOption

theorem name_of_key? {name : String} {k : Key} (h : shape.key? name = some k) :
    shape.name k = name := by
  have hfound := List.find?_some h
  simpa using hfound

/-- An entry that no member belongs to is refused or passed over, before another one or after it. -/
theorem toOption_putEntry_unknown {e : String × Node} (he : shape.key? e.1 = none)
    (f : Draft → Except DecodeError Draft) (d : Draft) :
    (shape.putEntry put d e >>= f).toOption
      = (f d >>= fun d => shape.putEntry put d e).toOption := by
  simp only [putEntry, he, toOption_bind]
  cases shape.closed with
  | false => exact (Option.bind_fun_some (f d).toOption).symm
  | true => exact (Option.bind_fun_none (f d).toOption).symm

theorem toOption_putEntry_comm (shape : RecordShape Key) (hput : Commutes put)
    {e e' : String × Node} (hne : e.1 ≠ e'.1) (d : Draft) :
    (shape.putEntry put d e >>= fun d => shape.putEntry put d e').toOption
      = (shape.putEntry put d e' >>= fun d => shape.putEntry put d e).toOption := by
  cases hk : shape.key? e.1 with
  | none => exact toOption_putEntry_unknown hk (fun d => shape.putEntry put d e') d
  | some k =>
    cases hk' : shape.key? e'.1 with
    | none => exact (toOption_putEntry_unknown hk' (fun d => shape.putEntry put d e) d).symm
    | some k' =>
      -- a member has one name only, so these are two members
      have hkeys : k ≠ k' := by
        rintro rfl
        exact hne ((name_of_key? hk).symm.trans (name_of_key? hk'))
      simp only [putEntry, hk, hk']
      exact hput d k k' e.2 e'.2 hkeys

/-- The draft that a draft becomes with one more entry, if both are accepted. -/
def step (shape : RecordShape Key) (put : Draft → Key → Node → Except DecodeError Draft)
    (d : Option Draft) (e : String × Node) : Option Draft :=
  d.bind fun d => (shape.putEntry put d e).toOption

theorem toOption_foldlM_putEntry (entries : List (String × Node)) (d : Draft) :
    (entries.foldlM (shape.putEntry put) d).toOption
      = entries.foldl (shape.step put) (some d) := by
  rw [List.foldlM_eq_foldl]
  refine (List.foldl_hom Except.toOption fun x e => ?_).symm
  rw [toOption_bind]
  rfl

theorem foldl_step_perm (hput : Commutes put) {entries entries' : List (String × Node)}
    (hnodup : (entries.map Prod.fst).Nodup) (h : entries.Perm entries') (d : Option Draft) :
    entries.foldl (shape.step put) d = entries'.foldl (shape.step put) d := by
  refine h.foldl_eq' (fun e he e' he' d => ?_) d
  -- an entry commutes with itself, and with those of another key
  by_cases heq : e = e'
  · rw [heq]
  · have hne : e.1 ≠ e'.1 := fun hkey => heq (List.inj_on_of_nodup_map hnodup he he' hkey)
    cases d with
    | none => rfl
    | some d =>
      have hcomm := shape.toOption_putEntry_comm hput hne d
      rw [toOption_bind, toOption_bind] at hcomm
      exact hcomm

theorem foldl_step_reordered (hput : ∀ d k, OrderFree (put d k))
    {entries entries' : List (String × Node)}
    (hentries : ∀ e ∈ entries, e.2.hasDistinctKeys = true)
    (h : List.Forall₂ EntryReordered entries entries') (d : Option Draft) :
    entries.foldl (shape.step put) d = entries'.foldl (shape.step put) d := by
  induction h generalizing d with
  | nil => rfl
  | @cons e e' entries entries' he _ ih =>
    have hstep : shape.step put d e = shape.step put d e' := by
      obtain ⟨key, hvalue⟩ := he
      have hdistinct := hentries _ List.mem_cons_self
      simp only [step, putEntry]
      cases shape.key? key with
      | none => rfl
      | some k =>
        congr 1
        funext d
        exact hput d k hdistinct hvalue
    rw [List.foldl_cons, List.foldl_cons, hstep]
    exact ih (fun e he => hentries e (List.mem_cons_of_mem _ he)) _

theorem toOption_foldlM_zip_reordered (hput : ∀ d k, OrderFree (put d k)) {items items' : List Node}
    (hitems : ∀ n ∈ items, n.hasDistinctKeys = true) (h : List.Forall₂ Reordered items items')
    (keys : List Key) (d : Draft) :
    ((keys.zip items).foldlM (fun d (k, n) => put d k n) d).toOption
      = ((keys.zip items').foldlM (fun d (k, n) => put d k n) d).toOption := by
  induction h generalizing keys d with
  | nil => rfl
  | @cons n n' items items' hn _ ih =>
    cases keys with
    | nil => rfl
    | cons k keys =>
      have hhead := hput d k (hitems n List.mem_cons_self) hn
      have htail := ih fun n hn => hitems n (List.mem_cons_of_mem _ hn)
      simp only [List.zip_cons_cons, List.foldlM_cons, toOption_bind, hhead, htail]

/-- A record may give its entries in any order if its members do not get in each other's way. -/
theorem orderFree_fill (hput : ∀ d k, OrderFree (put d k)) (hcomm : Commutes put) (holder : Holder)
    (empty : Draft) : OrderFree (shape.fill holder put empty) := by
  intro n m hn hnm
  cases hnm with
  | same => rfl
  | list form items =>
    have hdistinct := Node.hasDistinctKeys_of_mem hn
    have hfold := toOption_foldlM_zip_reordered hput hdistinct items shape.keys empty
    simp only [fill, toOption_bind, hfold, items.length_eq]
  | @table xs ys zs values order =>
    obtain ⟨hnodup, hdistinct⟩ := Node.hasDistinctKeys_table.mp hn
    rw [Node.map_fst_of_reordered values] at hnodup
    -- first the values are exchanged one for one, then the entries are moved
    have hfold : (xs.foldlM (shape.putEntry put) empty).toOption
        = (zs.foldlM (shape.putEntry put) empty).toOption := by
      rw [toOption_foldlM_putEntry, toOption_foldlM_putEntry,
        foldl_step_reordered hput hdistinct values, foldl_step_perm hcomm hnodup order]
    simp only [fill, toOption_bind, hfold]

end RecordShape

end SchemaEvolution
