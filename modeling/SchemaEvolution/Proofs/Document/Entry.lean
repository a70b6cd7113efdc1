import SchemaEvolution.Proofs.Document.Reordering

/-!
# Tables entry by entry

The entries of a table are put into a draft one after the other. If what becomes of an entry does
not depend on the draft, the first entry that is refused decides the error
(`RecordShape.foldlM_eq_error`), and a table of other entries fills the draft
(`RecordShape.exists_foldlM`). Each part of the draft is then what stands under its key, as long as
no key stands in the table twice (`RecordShape.part_eq_iff`).
-/

namespace SchemaEvolution.RecordShape

variable {Key Draft β : Type} {shape : RecordShape Key}
  {put : Draft → Key → Node → Except DecodeError Draft} {entries : List (String × Node)}

/-! ## Accepted and refused entries -/

/-- Whether an entry can be put into every draft. -/
def Accepts (shape : RecordShape Key) (put : Draft → Key → Node → Except DecodeError Draft)
    (e : String × Node) : Prop :=
  ∀ d, ∃ d', shape.putEntry put d e = .ok d'

/-- Whether an entry is refused with the error by every draft. -/
def Refuses (shape : RecordShape Key) (put : Draft → Key → Node → Except DecodeError Draft)
    (e : String × Node) (error : DecodeError) : Prop :=
  ∀ d, shape.putEntry put d e = .error error

theorem exists_foldlM (h : ∀ e ∈ entries, shape.Accepts put e) (d : Draft) :
    ∃ d', entries.foldlM (shape.putEntry put) d = .ok d' := by
  induction entries generalizing d with
  | nil => exact ⟨d, rfl⟩
  | cons e entries ih =>
    obtain ⟨next, hnext⟩ := h e List.mem_cons_self d
    obtain ⟨d', hd'⟩ := ih (fun e he => h e (List.mem_cons_of_mem _ he)) next
    refine ⟨d', ?_⟩
    rw [List.foldlM_cons, hnext]
    exact hd'

/-- The first entry that is refused decides the error, whatever stands behind it. -/
theorem foldlM_eq_error {before after : List (String × Node)} {e : String × Node}
    {error : DecodeError} (hbefore : ∀ e ∈ before, shape.Accepts put e)
    (he : shape.Refuses put e error) (d : Draft) :
    (before ++ e :: after).foldlM (shape.putEntry put) d = .error error := by
  obtain ⟨next, hnext⟩ := exists_foldlM hbefore d
  rw [List.foldlM_append, hnext]
  show (e :: after).foldlM (shape.putEntry put) next = _
  rw [List.foldlM_cons, he next]
  rfl

/-! ## Parts of the draft -/

/-- What a table with distinct keys gives for a member is what stands under its key. -/
theorem given?_table [DecidableEq Key] {k : Key} (hkey : shape.key? (shape.name k) = some k)
    (hnodup : (entries.map Prod.fst).Nodup) {n : Node} :
    shape.given? (.table entries) k = some n ↔ (shape.name k, n) ∈ entries := by
  have hmem (n : Node) : (k, n) ∈ shape.known entries ↔ (shape.name k, n) ∈ entries := by
    rw [known, List.mem_filterMap]
    constructor
    · rintro ⟨⟨name, m⟩, hm, hk⟩
      obtain ⟨k', hk', heq⟩ := Option.map_eq_some_iff.mp hk
      cases heq
      rwa [name_of_key? hk']
    · intro hn
      exact ⟨_, hn, by rw [hkey]; rfl⟩
  have hfilter (n : Node) :
      (k, n) ∈ (shape.known entries).filter (·.1 = k) ↔ (shape.name k, n) ∈ entries := by
    rw [List.mem_filter, ← hmem]
    simp
  show ((shape.known entries).filter (·.1 = k)).getLast?.map Prod.snd = some n ↔ _
  have hlastMem : ∀ m, ((shape.known entries).filter (·.1 = k)).getLast? = some m →
      m.1 = k ∧ (shape.name k, m.2) ∈ entries := by
    intro m hm
    have hm := List.mem_of_getLast? hm
    have hk : m.1 = k := by simpa using (List.mem_filter.mp hm).2
    exact ⟨hk, (hfilter m.2).mp (hk ▸ hm)⟩
  constructor
  · intro h
    obtain ⟨m, hm, rfl⟩ := Option.map_eq_some_iff.mp h
    exact (hlastMem m hm).2
  · intro hn
    cases hlast : ((shape.known entries).filter (·.1 = k)).getLast? with
    | none =>
      rw [List.getLast?_eq_none_iff] at hlast
      have hempty := (hfilter n).mpr hn
      rw [hlast] at hempty
      exact absurd hempty List.not_mem_nil
    | some m =>
      -- the last entry for the key is the only one
      have hm := (hlastMem m hlast).2
      have heq := List.inj_on_of_nodup_map hnodup hm hn rfl
      rw [Option.map_some, (Prod.mk.inj heq).2]

/-- A part of the draft that only one member writes to differs from the empty draft only if it was
read from what stands under the key of this member. -/
theorem part_eq_iff [DecidableEq Key] {holder : Holder} {empty draft : Draft} {form : RecordForm}
    (part : Draft → β) (read : Node → Except DecodeError β) {k : Key}
    (hkey : shape.key? (shape.name k) = some k)
    (hk : ∀ d n d', put d k n = .ok d' → read n = .ok (part d'))
    (hother : ∀ d k' n d', k' ≠ k → put d k' n = .ok d' → part d' = part d)
    (hnodup : (entries.map Prod.fst).Nodup)
    (hfill : shape.fill holder put empty (.table entries) = .ok (draft, form)) {b : β}
    (hb : part empty ≠ b) :
    part draft = b ↔ ∃ n, (shape.name k, n) ∈ entries ∧ read n = .ok b := by
  have hgiven := given?_of_fill part (fun n b => read n = .ok b) hk hother hfill
  cases hvalue : shape.given? (.table entries) k with
  | none =>
    rw [hvalue] at hgiven
    have hsame : part draft = part empty := hgiven
    constructor
    · intro h
      exact absurd (hsame.symm.trans h) hb
    · rintro ⟨n, hn, -⟩
      rw [(given?_table hkey hnodup).mpr hn] at hvalue
      cases hvalue
  | some n =>
    rw [hvalue] at hgiven
    have hread : read n = .ok (part draft) := hgiven
    have hmem := (given?_table hkey hnodup).mp hvalue
    constructor
    · rintro rfl
      exact ⟨n, hmem, hread⟩
    · rintro ⟨m, hm, hmb⟩
      -- there is only one value under the key
      have heq := List.inj_on_of_nodup_map hnodup hm hmem rfl
      rw [(Prod.mk.inj heq).2, hread] at hmb
      exact Except.ok.inj hmb

end SchemaEvolution.RecordShape
