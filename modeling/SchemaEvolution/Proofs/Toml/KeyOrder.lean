import SchemaEvolution.Toml

/-!
# The order of keys in TOML

The entries of a table stand in the order in which their keys first appear in the text: a table in
braces has its keys in this order (`Toml.keys_tableOfPairs`), and the lines after a header add
theirs to the table that it begins (`Toml.Draft.keys_pairs`). Dotted keys count for the table in
which they begin.
-/

namespace SchemaEvolution.Toml

/-- Keys in the order in which they first appear, with one more. -/
def addKey (keys : List String) (key : String) : List String :=
  if key ∈ keys then keys else keys ++ [key]

/-- The keys in which the paths of pairs begin. -/
def heads (pairs : List (List String × Node)) : List String :=
  pairs.filterMap fun p => p.1.head?

/-! ## Entries -/

namespace Entries

/-- The keys of entries in their order. -/
def keys (entries : Entries) : List String :=
  entries.map Prod.fst

/-- The entries of the table at the end of a path; of tables with double brackets the last one is
meant. A table that is not there has none. -/
def within : List String → Entries → Entries
  | [], entries => entries
  | key :: path, entries =>
    match entries.lookup key with
    | some (.table _ inner) => within path inner
    | some (.rows tables) => within path (tables.getLast?.getD [])
    | _ => []

variable {entries : Entries} {key : String}

theorem within_nil (path : List String) : within path [] = [] := by
  cases path <;> rfl

theorem lookup_eq_none_iff : entries.lookup key = none ↔ key ∉ keys entries := by
  induction entries with
  | nil => simp [keys]
  | cons e entries ih =>
    by_cases he : key = e.1
    · simp [keys, he]
    · have hne : (key == e.1) = false := beq_eq_false_iff_ne.mpr he
      rw [List.lookup_cons, hne, keys, List.map_cons, List.mem_cons, not_or]
      exact ih.trans ⟨fun h => ⟨he, h⟩, And.right⟩

theorem keys_append (key : String) (item : Item) (h : entries.lookup key = none) :
    keys (entries ++ [(key, item)]) = addKey (keys entries) key := by
  rw [addKey, if_neg (lookup_eq_none_iff.mp h), keys, List.map_append]
  rfl

theorem keys_replace {item : Item} (h : entries.lookup key = some item) (item' : Item) :
    keys (replace entries key item') = addKey (keys entries) key := by
  have hmem : key ∈ keys entries := by
    apply Classical.byContradiction
    intro hnot
    rw [lookup_eq_none_iff.mpr hnot] at h
    cases h
  rw [addKey, if_pos hmem, keys, replace, List.map_map]
  refine List.map_congr_left fun e _ => ?_
  show (if e.1 == key then (key, item') else e).1 = e.1
  split
  · next he => exact (eq_of_beq he).symm
  · rfl

theorem lookup_append (item : Item) (h : entries.lookup key = none) :
    (entries ++ [(key, item)]).lookup key = some item := by
  rw [List.lookup_append, h, Option.none_or, List.lookup_cons_self]

theorem lookup_replace {item : Item} (h : entries.lookup key = some item) (item' : Item) :
    (replace entries key item').lookup key = some item' := by
  induction entries with
  | nil => cases h
  | cons e entries ih =>
    show ((if e.1 == key then (key, item') else e) :: replace entries key item').lookup key = _
    by_cases he : e.1 = key
    · rw [if_pos (beq_iff_eq.mpr he), List.lookup_cons_self]
    · have hne : (key == e.1) = false := beq_eq_false_iff_ne.mpr (Ne.symm he)
      rw [List.lookup_cons, hne] at h
      rw [if_neg (by rwa [beq_iff_eq]), List.lookup_cons, hne]
      exact ih h

end Entries

open Entries (keys within)

/-! ## Edits -/

variable {dotted : Bool} {key : String} {path : List String} {edit : Edit} {standing : Standing}
  {entries entries' : Entries} {n : Node}

/-- A change at the end of a longer path leaves the keys as they are or adds the first one. -/
theorem Edit.keys_inside
    (h : Edit.inside dotted (key :: path) edit standing entries = some entries') :
    keys entries' = addKey (keys entries) key := by
  unfold Edit.inside at h
  split at h
  · next hlookup =>
    obtain ⟨inner, _, h⟩ := Option.bind_eq_some_iff.mp h
    rw [← Option.some.inj h]
    exact Entries.keys_append _ _ hlookup
  · cases h
  · next hlookup =>
    split at h
    · cases h
    · obtain ⟨inner, _, h⟩ := Option.bind_eq_some_iff.mp h
      rw [← Option.some.inj h]
      exact Entries.keys_replace hlookup _
  · next hlookup =>
    obtain ⟨last, _, h⟩ := Option.bind_eq_some_iff.mp h
    obtain ⟨inner, _, h⟩ := Option.bind_eq_some_iff.mp h
    rw [← Option.some.inj h]
    exact Entries.keys_replace hlookup _

/-- A change at the end of a path is a change to the table that is found there. -/
theorem Edit.within_inside (h : Edit.inside dotted path edit standing entries = some entries') :
    ∃ standing', edit standing' (within path entries) = some (within path entries') := by
  induction path generalizing standing entries entries' with
  | nil => exact ⟨standing, h⟩
  | cons key path ih =>
    unfold Edit.inside at h
    split at h
    · next hlookup =>
      obtain ⟨inner, hinner, h⟩ := Option.bind_eq_some_iff.mp h
      obtain ⟨standing', hedit⟩ := ih hinner
      refine ⟨standing', ?_⟩
      rw [Entries.within_nil] at hedit
      rw [← Option.some.inj h, within, within, hlookup, Entries.lookup_append _ hlookup]
      exact hedit
    · cases h
    · next hlookup =>
      split at h
      · cases h
      · obtain ⟨inner, hinner, h⟩ := Option.bind_eq_some_iff.mp h
        obtain ⟨standing', hedit⟩ := ih hinner
        refine ⟨standing', ?_⟩
        rw [← Option.some.inj h, within, within, hlookup, Entries.lookup_replace hlookup]
        exact hedit
    · next tables hlookup =>
      obtain ⟨last, hlast, h⟩ := Option.bind_eq_some_iff.mp h
      obtain ⟨inner, hinner, h⟩ := Option.bind_eq_some_iff.mp h
      obtain ⟨standing', hedit⟩ := ih hinner
      refine ⟨standing', ?_⟩
      -- the table that was changed is the last one still
      rw [← Option.some.inj h, within, within, hlookup, Entries.lookup_replace hlookup]
      simp only [hlast, Option.getD_some, List.getLast?_append, List.getLast?_singleton,
        Option.some_or]
      exact hedit

/-- A value at a path of dotted keys adds the first of them, unless it is there. -/
theorem Edit.keys_assignPath (h : Edit.assignPath path n standing entries = some entries') :
    keys entries' = path.head?.toList.foldl addKey (keys entries) := by
  match path with
  | [] => cases h
  | [key] =>
    have h : Edit.assign false key n standing entries = some entries' := h
    rw [Edit.assign, Bool.false_and, if_neg Bool.false_ne_true] at h
    split at h
    · cases h
    · next hlookup =>
      rw [Option.not_isSome_iff_eq_none] at hlookup
      rw [← Option.some.inj h]
      exact Entries.keys_append _ _ hlookup
  | key :: second :: path =>
    obtain ⟨last, hlast⟩ : ∃ last, (key :: second :: path).getLast? = some last :=
      ⟨_, List.getLast?_eq_some_getLast (List.cons_ne_nil _ _)⟩
    rw [Edit.assignPath, Edit.atKey, hlast] at h
    exact Edit.keys_inside h

/-! ## Runs of pairs -/

theorem heads_cons (p : List String × Node) (pairs : List (List String × Node)) :
    heads (p :: pairs) = p.1.head?.toList ++ heads pairs := by
  rw [heads, List.filterMap_cons]
  cases p.1.head? <;> rfl

/-- Pairs that are put into a table one after the other leave its keys in the order in which they
first appear. -/
theorem keys_foldlM (pairs : List (List String × Node))
    (h : pairs.foldlM (fun entries p => Edit.assignPath p.1 p.2 standing entries) entries
      = some entries') : keys entries' = (heads pairs).foldl addKey (keys entries) := by
  induction pairs generalizing entries with
  | nil =>
    rw [Option.some.inj h]
    rfl
  | cons p pairs ih =>
    rw [List.foldlM_cons] at h
    obtain ⟨next, hnext, h⟩ := Option.bind_eq_some_iff.mp h
    rw [ih h, Edit.keys_assignPath hnext, heads_cons, List.foldl_append]

/-- A table in braces has its keys in the order of its pairs. -/
theorem keys_tableOfPairs {pairs : List (List String × Node)}
    (h : tableOfPairs pairs = some entries) : keys entries = (heads pairs).foldl addKey [] :=
  keys_foldlM pairs h

namespace Draft

variable {d d' : Draft}

/-- The table that the pairs of the following lines belong to. -/
def table (d : Draft) : Entries :=
  within d.current d.entries

theorem add_pair (h : d.add (.pair path n) = some d') :
    d'.current = d.current ∧
    ∃ standing, Edit.assignPath path n standing d.table = some d'.table := by
  obtain ⟨entries, hentries, h⟩ := Option.bind_eq_some_iff.mp h
  rw [← Option.some.inj h]
  exact ⟨rfl, Edit.within_inside hentries⟩

/-- The pairs of consecutive lines leave the keys of their table in the order in which they first
appear. -/
theorem keys_pairs (pairs : List (List String × Node))
    (h : (pairs.map fun p => Line.pair p.1 p.2).foldlM add d = some d') :
    d'.current = d.current ∧ keys d'.table = (heads pairs).foldl addKey (keys d.table) := by
  induction pairs generalizing d with
  | nil =>
    rw [Option.some.inj h]
    exact ⟨rfl, rfl⟩
  | cons p pairs ih =>
    rw [List.map_cons, List.foldlM_cons] at h
    obtain ⟨next, hnext, h⟩ := Option.bind_eq_some_iff.mp h
    obtain ⟨hcurrent, standing, hedit⟩ := add_pair hnext
    obtain ⟨hcurrent', hkeys⟩ := ih h
    refine ⟨hcurrent'.trans hcurrent, ?_⟩
    rw [hkeys, Edit.keys_assignPath hedit, heads_cons, List.foldl_append]

end Draft

theorem keys_entryNodes (entries : Entries) : (entryNodes entries).map Prod.fst = keys entries := by
  induction entries with
  | nil => rfl
  | cons e entries ih =>
    rw [entryNodes, List.map_cons, ih]
    rfl

end SchemaEvolution.Toml
