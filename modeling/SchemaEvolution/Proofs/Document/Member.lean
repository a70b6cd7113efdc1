import SchemaEvolution.Document.Record
import SchemaEvolution.Proofs.Result

/-!
# What a record gives for its members

Both forms of a record give members in an order (`RecordShape.members`), and filling a draft puts
them into it one after the other (`RecordShape.foldlM_members`). The part of a draft that belongs to
one member is therefore decided by the last value that is given for it, and is as in the empty draft
if there is none (`RecordShape.given?_of_fill`).
-/

namespace SchemaEvolution

/-! ## Results and lists -/

open Result (bind_eq_ok map_eq_ok)

theorem Node.asBool_eq_ok {n : Node} {b : Bool} (h : n.asBool = .ok b) : n = .bool b := by
  cases n <;> simp_all [asBool]

theorem Node.asBool_eq_ok_iff {n : Node} {b : Bool} : n.asBool = .ok b ↔ n = .bool b := by
  constructor
  · exact asBool_eq_ok
  · rintro rfl
    rfl

theorem Node.asBool_eq_error {n : Node} (hn : ∀ b, n ≠ .bool b) :
    n.asBool = .error (.wrongKind n.found .boolean) := by
  cases n with
  | bool b => exact absurd rfl (hn b)
  | _ => rfl

theorem Node.asText_eq_ok_iff {n : Node} {s : String} : n.asText = .ok s ↔ n = .text s := by
  cases n <;> simp [asText]

theorem Node.asText_eq_error {n : Node} (hn : ∀ s, n ≠ .text s) :
    n.asText = .error (.wrongKind n.found .string) := by
  cases n with
  | text s => exact absurd rfl (hn s)
  | _ => rfl

theorem Node.asOption_of_ne_null {α : Type} {read : Node → Except DecodeError α} {n : Node}
    (hn : n ≠ .null) : n.asOption read = some <$> read n := by
  cases n with
  | null => exact absurd rfl hn
  | _ => rfl

theorem Node.asOption_eq_some {α : Type} {read : Node → Except DecodeError α} {n : Node} {a : α} :
    n.asOption read = .ok (some a) ↔ n ≠ .null ∧ read n = .ok a := by
  by_cases hn : n = .null
  · simp [hn, asOption]
  · simp [asOption_of_ne_null hn, map_eq_ok, hn]

theorem Node.eq_null_of_asOption {α : Type} {read : Node → Except DecodeError α} {n : Node}
    (h : n.asOption read = .ok none) : n = .null := by
  unfold asOption at h
  split at h
  · rfl
  · cases hread : read n with
    | error e =>
      rw [hread] at h
      cases h
    | ok a =>
      rw [hread] at h
      exact absurd (Except.ok.inj h) (Option.some_ne_none a)

/-- The item of a list at a place. -/
def Node.item? (n : Node) (i : Nat) : Option Node :=
  match n with
  | .list _ items => items[i]?
  | _ => none

/-- Each value in a list that was read comes from the item in its place. -/
theorem Node.exists_item?_of_asList {α : Type} {item : Node → Except DecodeError α} {n : Node}
    {as : List α} (h : n.asList item = .ok as) {i : Nat} {a : α} (ha : as[i]? = some a) :
    ∃ m, n.item? i = some m ∧ item m = .ok a := by
  cases n with
  | list form items =>
    rw [asList] at h
    change ∃ m, items[i]? = some m ∧ item m = .ok a
    induction items generalizing as i with
    | nil =>
      cases h
      cases ha
    | cons m items ih =>
      rw [List.mapM_cons, bind_eq_ok] at h
      obtain ⟨first, hfirst, h⟩ := h
      rw [bind_eq_ok] at h
      obtain ⟨rest, hrest, h⟩ := h
      cases h
      cases i with
      | zero =>
        obtain rfl : first = a := Option.some.inj ha
        exact ⟨m, rfl, hfirst⟩
      | succ i => exact ih ha hrest
  | _ => simp [asList] at h

/-! ## Members -/

namespace RecordShape

variable {Key Draft β : Type} {shape : RecordShape Key}
  {put : Draft → Key → Node → Except DecodeError Draft} {draft draft' : Draft}
  {holder : Holder} {form : RecordForm} {n : Node}

/-- The members among the entries of a table. -/
def known (shape : RecordShape Key) (entries : List (String × Node)) : List (Key × Node) :=
  entries.filterMap fun e => (shape.key? e.1).map (·, e.2)

/-- The members that a record gives, in the order in which they are visited. -/
def members (shape : RecordShape Key) : Node → List (Key × Node)
  | .table entries => shape.known entries
  | .list _ items => shape.keys.zip items
  | .moment => shape.known [("$__toml_private_datetime", .null)]
  | _ => []

/-- The value that a record gives for a member; the last one, should there be several. -/
def given? [DecidableEq Key] (shape : RecordShape Key) (n : Node) (k : Key) : Option Node :=
  ((shape.members n).filter (·.1 = k)).getLast?.map Prod.snd

/-- Entries of a table that no member belongs to leave no trace in the draft. -/
theorem foldlM_known {entries : List (String × Node)}
    (h : entries.foldlM (shape.putEntry put) draft = .ok draft') :
    (shape.known entries).foldlM (fun d m => put d m.1 m.2) draft = .ok draft' := by
  induction entries generalizing draft with
  | nil => exact h
  | cons e entries ih =>
    rw [List.foldlM_cons, bind_eq_ok] at h
    obtain ⟨next, hnext, h⟩ := h
    rw [putEntry] at hnext
    cases hkey : shape.key? e.1 with
    | some k =>
      rw [hkey] at hnext
      have hknown : shape.known (e :: entries) = (k, e.2) :: shape.known entries :=
        List.filterMap_cons_some (by rw [hkey]; rfl)
      rw [hknown, List.foldlM_cons, bind_eq_ok]
      exact ⟨next, hnext, ih h⟩
    | none =>
      rw [hkey] at hnext
      have hknown : shape.known (e :: entries) = shape.known entries :=
        List.filterMap_cons_none (by rw [hkey]; rfl)
      rw [hknown]
      cases hclosed : shape.closed with
      | true => simp [hclosed] at hnext
      | false =>
        simp only [hclosed, Bool.false_eq_true, if_false, Except.ok.injEq] at hnext
        rw [hnext]
        exact ih h

/-- A draft is filled with the members of the record, one after the other. -/
theorem foldlM_members (h : shape.fill holder put draft n = .ok (draft', form)) :
    (shape.members n).foldlM (fun d m => put d m.1 m.2) draft = .ok draft' := by
  cases n with
  | table entries =>
    obtain ⟨filled, hfilled, h⟩ := bind_eq_ok.mp h
    cases h
    exact foldlM_known hfilled
  | list listForm items =>
    obtain ⟨filled, hfilled, h⟩ := bind_eq_ok.mp h
    have hsame : filled = draft' := by
      simp only at h
      split at h
      · simp [throw, throwThe, MonadExceptOf.throw, bind, Except.bind] at h
      · cases h
        rfl
    rw [← hsame]
    exact hfilled
  | moment =>
    obtain ⟨filled, hfilled, h⟩ := bind_eq_ok.mp h
    cases h
    refine foldlM_known ?_
    rw [List.foldlM_cons, bind_eq_ok]
    exact ⟨draft', hfilled, rfl⟩
  | _ => simp [fill] at h

/-- A part of the draft that only one member writes to is decided by the last value that is given
for this member. -/
theorem given?_of_fill [DecidableEq Key] (part : Draft → β) (Reads : Node → β → Prop) {k : Key}
    (hk : ∀ d n d', put d k n = .ok d' → Reads n (part d'))
    (hother : ∀ d k' n d', k' ≠ k → put d k' n = .ok d' → part d' = part d)
    (h : shape.fill holder put draft n = .ok (draft', form)) :
    match shape.given? n k with
    | some value => Reads value (part draft')
    | none => part draft' = part draft := by
  have hmembers := foldlM_members h
  rw [given?]
  generalize shape.members n = members at hmembers
  clear h
  induction members generalizing draft with
  | nil =>
    cases hmembers
    rfl
  | cons m members ih =>
    rw [List.foldlM_cons, bind_eq_ok] at hmembers
    obtain ⟨next, hnext, hrest⟩ := hmembers
    have hlater := ih hrest
    by_cases hm : m.1 = k
    · rw [List.filter_cons_of_pos (by simpa using hm), List.getLast?_cons]
      cases hlast : (members.filter (·.1 = k)).getLast? with
      | some last =>
        rw [hlast] at hlater
        exact hlater
      | none =>
        -- the value put here is the last one
        rw [hlast] at hlater
        have hreads : Reads m.2 (part next) := hk draft m.2 next (hm ▸ hnext)
        have hsame : part draft' = part next := hlater
        rw [← hsame] at hreads
        exact hreads
    · rw [List.filter_cons_of_neg (by simpa using hm)]
      rw [hother draft m.1 m.2 next hm hnext] at hlater
      exact hlater

/-- A flag is as in the empty draft, or it is given last as what it is. -/
theorem given?_flag [DecidableEq Key] (flag : Draft → Bool) {k : Key}
    (hk : ∀ d n d', put d k n = .ok d' → n = .bool (flag d'))
    (hother : ∀ d k' n d', k' ≠ k → put d k' n = .ok d' → flag d' = flag d)
    (h : shape.fill holder put draft n = .ok (draft', form)) :
    (shape.given? n k = none ∧ flag draft' = flag draft) ∨
      shape.given? n k = some (.bool (flag draft')) := by
  have hgiven := given?_of_fill flag (fun n b => n = .bool b) hk hother h
  cases hvalue : shape.given? n k with
  | none =>
    rw [hvalue] at hgiven
    exact .inl ⟨rfl, hgiven⟩
  | some value =>
    rw [hvalue] at hgiven
    exact .inr (congrArg some hgiven)

theorem require_eq_ok {α : Type} {key : Key} {o : Option α} {a : α}
    (h : shape.require form key o = .ok a) : o = some a := by
  cases o with
  | none => cases h
  | some b => rw [Except.ok.inj h]

/-- A member that has to be there, and is, was read from the last value that is given for it. -/
theorem given?_of_require [DecidableEq Key] {α : Type} (member : Draft → Option α)
    (Reads : Node → α → Prop) {k key : Key} {a : α}
    (hk : ∀ d n d', put d k n = .ok d' → ∃ a, member d' = some a ∧ Reads n a)
    (hother : ∀ d k' n d', k' ≠ k → put d k' n = .ok d' → member d' = member d)
    (hempty : member draft = none) (h : shape.fill holder put draft n = .ok (draft', form))
    (hrequire : shape.require form key (member draft') = .ok a) :
    ∃ value, shape.given? n k = some value ∧ Reads value a := by
  have hmember := require_eq_ok hrequire
  have hgiven := given?_of_fill member (fun n o => ∃ a, o = some a ∧ Reads n a) hk hother h
  cases hvalue : shape.given? n k with
  | none =>
    rw [hvalue] at hgiven
    simp only [hempty, hmember] at hgiven
    cases hgiven
  | some value =>
    rw [hvalue] at hgiven
    obtain ⟨b, hb, hreads⟩ := hgiven
    have hab : a = b := Option.some.inj (hmember.symm.trans hb)
    exact ⟨value, rfl, hab ▸ hreads⟩

end RecordShape

end SchemaEvolution
