import SchemaEvolution.Proofs.Document.Member

/-!
# A document that was read, with a change in one place

`Turns refusal x y` compares two runs of a reader: if the first one succeeds, the second one gives the
same value, or is refused with a given error. The error is the first one, since everything that is
read before the changed place is as it was, so a record or a list turns as the entry, member or item
does in which it is changed.

Main results:

* `RecordShape.turns_fill_of_entryAdded`: a table with one more entry that no member belongs to;
* `RecordShape.turns_fill_of_memberReplaced`: a record with another value for one member;
* `Node.turns_asList`: a list with another item.
-/

namespace SchemaEvolution

open Result (bind_eq_ok)

/-! ## Two runs of a reader -/

/-- A value, unless there is something that refuses it. -/
def DecodeError.outcome {α : Type} (refusal : Option DecodeError) (a : α) : Except DecodeError α :=
  match refusal with
  | none => .ok a
  | some e => .error e

open DecodeError (outcome)

/-- Whenever the first run succeeds, the second one gives the same value or the given refusal. -/
def Turns {α : Type} (refusal : Option DecodeError) (x y : Except DecodeError α) : Prop :=
  ∀ a, x = .ok a → y = outcome refusal a

namespace Turns

variable {α β : Type} {refusal : Option DecodeError} {x y : Except DecodeError α}

theorem bind_left (h : Turns refusal x y) (f : α → Except DecodeError β) :
    Turns refusal (x >>= f) (y >>= f) := by
  intro b hb
  obtain ⟨a, ha, hb⟩ := bind_eq_ok.mp hb
  rw [h a ha]
  -- what follows is reached with the same value, or not at all
  cases refusal with
  | none => exact hb
  | some e => rfl

theorem bind_right (x : Except DecodeError α) {f g : α → Except DecodeError β}
    (h : ∀ a, Turns refusal (f a) (g a)) : Turns refusal (x >>= f) (x >>= g) := by
  intro b hb
  obtain ⟨a, ha, hb⟩ := bind_eq_ok.mp hb
  rw [ha]
  exact h a b hb

theorem map (h : Turns refusal x y) (f : α → β) : Turns refusal (f <$> x) (f <$> y) := by
  rw [map_eq_pure_bind, map_eq_pure_bind]
  exact h.bind_left _

/-- A step that leaves its state alone, or refuses, may be inserted before any other. -/
theorem outcome_bind (a : α) (f : α → Except DecodeError β) :
    Turns refusal (f a) (outcome refusal a >>= f) := by
  intro b hb
  cases refusal with
  | none => exact hb
  | some e => rfl

end Turns

/-! ## Documents that differ in one place -/

namespace Node

variable {α : Type} {refusal : Option DecodeError} {key : String} {value n m : Node}

/-- The same table with one more entry, wherever among the others it stands. -/
inductive EntryAdded (key : String) (value : Node) : Node → Node → Prop
  | mk (xs ys : List (String × Node)) :
    EntryAdded key value (.table (xs ++ ys)) (.table (xs ++ (key, value) :: ys))

/-- The same list with one item replaced. -/
inductive ItemReplaced (n m : Node) : Node → Node → Prop
  | mk (form : ListForm) (xs ys : List Node) :
    ItemReplaced n m (.list form (xs ++ n :: ys)) (.list form (xs ++ m :: ys))

/-- The same record with another value for one member, which has a key in a table and an index in a
list. -/
inductive MemberReplaced (key : String) (index : Nat) (n m : Node) : Node → Node → Prop
  | keyed (xs ys : List (String × Node)) :
    MemberReplaced key index n m (.table (xs ++ (key, n) :: ys)) (.table (xs ++ (key, m) :: ys))
  | positional (form : ListForm) (xs ys : List Node) (hindex : xs.length = index) :
    MemberReplaced key index n m (.list form (xs ++ n :: ys)) (.list form (xs ++ m :: ys))

theorem turns_asList {item : Node → Except DecodeError α} {ns ms : Node}
    (hitem : Turns refusal (item n) (item m)) (h : ItemReplaced n m ns ms) :
    Turns refusal (ns.asList item) (ms.asList item) := by
  obtain ⟨form, xs, ys⟩ := h
  simp only [asList, List.mapM_append, List.mapM_cons]
  -- the items before are read in both runs, and those after do not matter
  refine .bind_right _ fun before => .bind_left ?_ _
  exact hitem.bind_left _

theorem turns_asOption {read : Node → Except DecodeError α} (hn : n ≠ .null) (hm : m ≠ .null)
    (h : Turns refusal (read n) (read m)) :
    Turns refusal (n.asOption read) (m.asOption read) := by
  rw [asOption_of_ne_null hn, asOption_of_ne_null hm]
  exact h.map some

end Node

/-! ## Records -/

namespace RecordShape

open Node (EntryAdded MemberReplaced)

variable {Key Draft : Type} {shape : RecordShape Key}
  {put : Draft → Key → Node → Except DecodeError Draft} {holder : Holder} {empty : Draft}
  {r : Option DecodeError} {key : String} {value n m N M : Node}

/-- Why a key that no member has is refused, if it is. -/
def refusal (shape : RecordShape Key) (key : String) : Option DecodeError :=
  if shape.closed then some (.unknownKey key shape.names) else none

theorem key?_eq_none (h : key ∉ shape.names) : shape.key? key = none := by
  refine List.find?_eq_none.mpr fun k hk heq => h ?_
  rw [← eq_of_beq heq]
  exact List.mem_map_of_mem hk

theorem putEntry_eq_outcome (h : key ∉ shape.names) (d : Draft) :
    shape.putEntry put d (key, value) = outcome (shape.refusal key) d := by
  simp only [putEntry, key?_eq_none h, RecordShape.refusal]
  cases shape.closed <;> rfl

/-- One more entry that no member belongs to is passed over or refused, as the record has it. -/
theorem turns_fill_of_entryAdded (hkey : key ∉ shape.names) (h : EntryAdded key value n m) :
    Turns (shape.refusal key) (shape.fill holder put empty n) (shape.fill holder put empty m) := by
  obtain ⟨xs, ys⟩ := h
  simp only [fill, List.foldlM_append, List.foldlM_cons, putEntry_eq_outcome hkey]
  refine .bind_left (.bind_right _ fun d => ?_) _
  exact .outcome_bind d fun d => ys.foldlM (shape.putEntry put) d

/-- A record turns as the member does that is replaced in it. -/
theorem turns_fill_of_memberReplaced {k : Key} {index : Nat} (hkey : shape.key? key = some k)
    (hindex : shape.keys[index]? = some k) (hput : ∀ d, Turns r (put d k n) (put d k m))
    (h : MemberReplaced key index n m N M) :
    Turns r (shape.fill holder put empty N) (shape.fill holder put empty M) := by
  cases h with
  | keyed xs ys =>
    simp only [fill, List.foldlM_append, List.foldlM_cons, putEntry, hkey]
    refine .bind_left (.bind_right _ fun d => ?_) _
    exact (hput d).bind_left _
  | positional form xs ys hlength =>
    obtain ⟨hlt, hk⟩ := List.getElem?_eq_some_iff.mp hindex
    -- the keys, split where the items are
    have hkeys : shape.keys = shape.keys.take index ++ k :: shape.keys.drop (index + 1) := by
      rw [← hk, ← List.drop_eq_getElem_cons hlt, List.take_append_drop]
    have hzip (n : Node) : shape.keys.zip (xs ++ n :: ys)
        = (shape.keys.take index).zip xs ++ (k, n) :: (shape.keys.drop (index + 1)).zip ys := by
      have hsplit : (shape.keys.take index).length = xs.length := by
        rw [List.length_take, hlength]
        omega
      calc shape.keys.zip (xs ++ n :: ys)
          = (shape.keys.take index ++ k :: shape.keys.drop (index + 1)).zip (xs ++ n :: ys) :=
            congrArg (fun keys => keys.zip (xs ++ n :: ys)) hkeys
        _ = _ := by rw [List.zip_append hsplit, List.zip_cons_cons]
    simp only [fill, hzip, List.foldlM_append, List.foldlM_cons, List.length_append,
      List.length_cons]
    refine .bind_left (.bind_right _ fun d => ?_) _
    exact (hput d).bind_left _

end RecordShape

end SchemaEvolution
