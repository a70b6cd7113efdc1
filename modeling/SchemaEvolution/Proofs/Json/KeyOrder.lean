import SchemaEvolution.Json.Parser
import SchemaEvolution.Proofs.Text.Reader

/-!
# The order of keys in JSON

Whatever is read as JSON has the entries of its tables sorted by key, at any depth
(`Json.sorted_of_read`), so no table has a key twice. The order in which the text gives them is
lost.
-/

namespace SchemaEvolution

/-- `IsPart m n`: the document `m` is the document `n` or stands somewhere in it. -/
inductive Node.IsPart : Node → Node → Prop
  | self (n : Node) : IsPart n n
  | item {m n : Node} {form : ListForm} {items : List Node} (hn : n ∈ items) (h : IsPart m n) :
    IsPart m (.list form items)
  | value {m : Node} {e : String × Node} {entries : List (String × Node)} (he : e ∈ entries)
    (h : IsPart m e.2) : IsPart m (.table entries)

namespace Json

open Text (Reader)

variable {n : Node} {s rest : List Char} {e : String × Node} {entries : List (String × Node)}

/-! ## Sorted entries -/

/-- Entries that are sorted by key. -/
def SortedByKey (entries : List (String × Node)) : Prop :=
  entries.Pairwise fun e e' => e.1 < e'.1

theorem mem_insertEntry {e' : String × Node} (h : e' ∈ insertEntry e entries) :
    e' = e ∨ e' ∈ entries := by
  induction entries with
  | nil => exact .inl (List.mem_singleton.mp h)
  | cons first entries ih =>
    rw [insertEntry] at h
    split at h
    · exact List.mem_cons.mp h
    · split at h
      · rcases List.mem_cons.mp h with rfl | h
        · exact .inl rfl
        · exact .inr (List.mem_cons_of_mem _ h)
      · rcases List.mem_cons.mp h with rfl | h
        · exact .inr List.mem_cons_self
        · exact (ih h).imp_right (List.mem_cons_of_mem _)

theorem SortedByKey.insertEntry (h : SortedByKey entries) (e : String × Node) :
    SortedByKey (insertEntry e entries) := by
  induction entries with
  | nil => exact List.pairwise_singleton _ e
  | cons first entries ih =>
    obtain ⟨hfirst, hrest⟩ := List.pairwise_cons.mp h
    rw [Json.insertEntry]
    split_ifs with hlt heq
    · refine List.pairwise_cons.mpr ⟨List.forall_mem_cons.mpr ⟨hlt, ?_⟩, h⟩
      intro e' he'
      exact String.lt_trans hlt (hfirst e' he')
    · refine List.pairwise_cons.mpr ⟨?_, hrest⟩
      rw [heq]
      exact hfirst
    · -- the new key is greater than the first one
      have hgt : first.1 < e.1 := by
        apply String.not_le.mp
        intro hle
        exact heq (String.le_antisymm hle (String.not_lt.mp hlt))
      refine List.pairwise_cons.mpr ⟨?_, ih hrest⟩
      intro e' he'
      rcases mem_insertEntry he' with rfl | he'
      · exact hgt
      · exact hfirst e' he'

/-- Entries that are inserted one after the other are sorted, and none of them is new. -/
theorem foldl_insertEntry (read sorted : List (String × Node)) (hsorted : SortedByKey sorted) :
    SortedByKey (read.foldl (fun sorted e => insertEntry e sorted) sorted) ∧
    ∀ e ∈ read.foldl (fun sorted e => insertEntry e sorted) sorted, e ∈ read ∨ e ∈ sorted := by
  induction read generalizing sorted with
  | nil => exact ⟨hsorted, fun e he => .inr he⟩
  | cons first read ih =>
    obtain ⟨hfold, hmem⟩ := ih _ (hsorted.insertEntry first)
    refine ⟨hfold, fun e he => ?_⟩
    rcases hmem e he with he | he
    · exact .inl (List.mem_cons_of_mem _ he)
    · rcases mem_insertEntry he with rfl | he
      · exact .inl List.mem_cons_self
      · exact .inr he

/-! ## Sorted documents -/

/-- Documents in which the entries of every table are sorted by key. -/
def Sorted (n : Node) : Prop :=
  ∀ entries, Node.IsPart (.table entries) n → SortedByKey entries

theorem Sorted.ofList {form : Node.ListForm} {items : List Node} (h : ∀ n ∈ items, Sorted n) :
    Sorted (.list form items) := by
  intro entries hpart
  cases hpart with
  | item hn hpart => exact h _ hn entries hpart

theorem Sorted.ofTable (hkeys : SortedByKey entries) (h : ∀ e ∈ entries, Sorted e.2) :
    Sorted (.table entries) := by
  intro entries' hpart
  cases hpart with
  | self => exact hkeys
  | value he hpart => exact h _ he entries' hpart

theorem sorted_of_number (h : number s = some (n, rest)) : Sorted n := by
  simp only [number, Option.bind_eq_bind, Option.bind_eq_some_iff] at h
  obtain ⟨⟨l, _⟩, _, h⟩ := h
  split at h
  · obtain ⟨rfl, -⟩ := Prod.mk.inj (Option.some.inj h)
    intro entries hpart
    cases hpart
  · obtain ⟨x, _, h⟩ := Option.bind_eq_some_iff.mp h
    obtain ⟨rfl, -⟩ := Prod.mk.inj (Option.some.inj h)
    intro entries hpart
    cases hpart

theorem sorted_of_scalar (h : scalar s = some (n, rest)) : Sorted n := by
  unfold scalar at h
  split at h
  case h_1 =>
    obtain ⟨⟨t, _⟩, _, h⟩ := Option.bind_eq_some_iff.mp h
    obtain ⟨rfl, -⟩ := Prod.mk.inj (Option.some.inj h)
    intro entries hpart
    cases hpart
  case h_5 => exact sorted_of_number h
  all_goals
    obtain ⟨rfl, -⟩ := Prod.mk.inj (Option.some.inj h)
    intro entries hpart
    cases hpart

/-! ## Readers -/

section Value

variable {value : Reader Node} (hvalue : ∀ s n rest, value s = some (n, rest) → Sorted n)

include hvalue

theorem sorted_of_padded (h : padded value s = some (n, rest)) : Sorted n := by
  obtain ⟨⟨m, _⟩, hm, h⟩ := Option.bind_eq_some_iff.mp h
  obtain ⟨rfl, -⟩ := Prod.mk.inj (Option.some.inj h)
  exact hvalue _ _ _ hm

theorem sorted_of_list (h : list value s = some (n, rest)) : Sorted n := by
  obtain ⟨_, _, h⟩ := Option.bind_eq_some_iff.mp h
  obtain ⟨_, _, h⟩ := Option.bind_eq_some_iff.mp h
  obtain ⟨rfl, -⟩ := Prod.mk.inj (Option.some.inj h)
  apply Sorted.ofList
  exact Reader.forall_mem_list (fun s m rest hm => sorted_of_padded hvalue hm) ',' _

theorem sorted_of_entry (h : entry value s = some (e, rest)) : Sorted e.2 := by
  obtain ⟨_, _, h⟩ := Option.bind_eq_some_iff.mp h
  obtain ⟨_, _, h⟩ := Option.bind_eq_some_iff.mp h
  obtain ⟨⟨m, _⟩, hm, h⟩ := Option.bind_eq_some_iff.mp h
  obtain ⟨rfl, -⟩ := Prod.mk.inj (Option.some.inj h)
  exact sorted_of_padded hvalue hm

theorem sorted_of_table (h : table value s = some (n, rest)) : Sorted n := by
  obtain ⟨_, _, h⟩ := Option.bind_eq_some_iff.mp h
  obtain ⟨_, _, h⟩ := Option.bind_eq_some_iff.mp h
  obtain ⟨rfl, -⟩ := Prod.mk.inj (Option.some.inj h)
  have hread (s : List Char) : ∀ e ∈ (Reader.list (entry value) ',' s).1, Sorted e.2 :=
    Reader.forall_mem_list (fun s e rest he => sorted_of_entry hvalue he) ',' s
  obtain ⟨hkeys, hmem⟩ := foldl_insertEntry (Reader.list (entry value) ',' _).1 [] .nil
  refine Sorted.ofTable hkeys fun e he => ?_
  rcases hmem e he with he | he
  · exact hread _ e he
  · exact absurd he List.not_mem_nil

end Value

theorem sorted_of_valueWithin (depth : Nat) :
    ∀ s n rest, valueWithin depth s = some (n, rest) → Sorted n := by
  induction depth with
  | zero => exact fun s n rest h => sorted_of_scalar h
  | succ depth ih =>
    intro s n rest h
    unfold valueWithin at h
    split at h
    · exact sorted_of_list ih h
    · exact sorted_of_table ih h
    · exact sorted_of_scalar h

/-- All tables in a document that was read are sorted by key. -/
theorem sorted_of_read {text : String} (h : read text = some n) : Sorted n := by
  obtain ⟨⟨m, rest⟩, hm, h⟩ := Option.bind_eq_some_iff.mp h
  have h : (if rest = [] then some m else none) = some n := h
  split at h
  · obtain rfl := Option.some.inj h
    exact sorted_of_padded (sorted_of_valueWithin maxDepth) hm
  · cases h

end Json

end SchemaEvolution
