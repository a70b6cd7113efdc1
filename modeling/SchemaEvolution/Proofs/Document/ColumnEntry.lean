import SchemaEvolution.Proofs.Column.Calls
import SchemaEvolution.Proofs.Document.ColumnReading
import SchemaEvolution.Proofs.Document.Entry

/-!
# The entries of a column

An entry of a table belongs to a column (`Column.IsEntry`), or it is refused for one reason
(`Column.IsRefused`), whatever has been read before it. A draft that was filled from entries of a
column holds the name and the type that stand there, and its options are those that the entries ask
for (`Column.Draft.holds_of_fill`).
-/

namespace SchemaEvolution

/-- A null is not read as a reference. -/
theorem ForeignKey.ne_null_of_decode {holder : Holder} {n : Node} {r : ForeignKey}
    (h : ForeignKey.decode holder n = .ok r) : n ≠ .null := by
  rintro rfl
  cases h

namespace Column

open Result (bind_eq_ok map_eq_ok)
open RecordShape (name_of_key?)

variable {holder : Holder} {entries : List (String × Node)} {e : String × Node}

/-! ## Entries of a column -/

/-- The entries that a column may have. -/
inductive IsEntry (holder : Holder) : String × Node → Prop
  | name (s : String) : IsEntry holder ("name", .text s)
  | type {s : String} {t : ColumnType} (h : ColumnType.read s = .ok t) :
    IsEntry holder ("type", .text s)
  | flag {key : String} (hkey : key ∈ ["allow_null", "unique", "primary_key"]) (b : Bool) :
    IsEntry holder (key, .bool b)
  | noReference : IsEntry holder ("references", .null)
  | reference {n : Node} {r : ForeignKey} (h : ForeignKey.decode holder n = .ok r) :
    IsEntry holder ("references", n)

/-- Why any other entry is refused. -/
inductive IsRefused (holder : Holder) : String × Node → DecodeError → Prop
  | unknownKey {key : String} (n : Node)
    (hkey : key ∉ ["name", "type", "allow_null", "unique", "primary_key", "references"]) :
    IsRefused holder (key, n)
      (.unknownKey key ["name", "type", "allow_null", "unique", "primary_key", "references"])
  | notText {key : String} {n : Node} (hkey : key ∈ ["name", "type"]) (hn : ∀ s, n ≠ .text s) :
    IsRefused holder (key, n) (.wrongKind n.found .string)
  | notType {s : String} {error : KeywordError} (h : ColumnType.read s = .error error) :
    IsRefused holder ("type", .text s) (.keyword error)
  | notFlag {key : String} {n : Node} (hkey : key ∈ ["allow_null", "unique", "primary_key"])
    (hn : ∀ b, n ≠ .bool b) : IsRefused holder (key, n) (.wrongKind n.found .boolean)
  | notReference {n : Node} {error : DecodeError} (hn : n ≠ .null)
    (h : ForeignKey.decode holder n = .error error) : IsRefused holder ("references", n) error

/-- The calls that entries ask for. A null is no reference. -/
inductive Asked (holder : Holder) (entries : List (String × Node)) : Call → Prop
  | notNull (h : ("allow_null", .bool false) ∈ entries) : Asked holder entries .notNull
  | unique (h : ("unique", .bool true) ∈ entries) : Asked holder entries .unique
  | referencing {n : Node} {r : ForeignKey} (h : ("references", n) ∈ entries)
    (hr : ForeignKey.decode holder n = .ok r) : Asked holder entries (.referencing r)

/-! ## Single entries -/

theorem key?_name (k : Key) : shape.key? (shape.name k) = some k := by
  cases k <;> rfl

theorem typeOf_text (s : String) : typeOf (.text s) = DecodeError.ofKeyword (ColumnType.read s) :=
  rfl

theorem accepts_of_isEntry (h : IsEntry holder e) : shape.Accepts (Draft.put holder) e := by
  intro d
  cases h with
  | name s => exact ⟨_, rfl⟩
  | @type s t h =>
    refine ⟨{ d with type := some t }, ?_⟩
    show typeOf (.text s) >>= _ = _
    rw [typeOf_text, h]
    rfl
  | flag hkey b =>
    simp only [List.mem_cons, List.not_mem_nil, or_false] at hkey
    rcases hkey with rfl | rfl | rfl <;> exact ⟨_, rfl⟩
  | noReference => exact ⟨_, rfl⟩
  | @reference n r h =>
    refine ⟨{ d with options := { d.options with references := some r } }, ?_⟩
    show n.asOption (ForeignKey.decode holder) >>= _ = _
    rw [Node.asOption_of_ne_null (ForeignKey.ne_null_of_decode h), h]
    rfl

theorem refuses_of_isRefused {error : DecodeError} (h : IsRefused holder e error) :
    shape.Refuses (Draft.put holder) e error := by
  intro d
  cases h with
  | @unknownKey key n hkey =>
    have hnone : shape.key? key = none := by
      apply List.find?_eq_none.mpr
      intro k _ hk
      apply hkey
      rw [← eq_of_beq hk]
      cases k <;> decide
    rw [RecordShape.putEntry, hnone]
    rfl
  | @notText key n hkey hn =>
    have hread := Node.asText_eq_error hn
    simp only [List.mem_cons, List.not_mem_nil, or_false] at hkey
    rcases hkey with rfl | rfl
    · show n.asText >>= _ = _
      rw [hread]
      rfl
    · show typeOf n >>= _ = _
      rw [typeOf, hread]
      rfl
  | @notType s error h =>
    show typeOf (.text s) >>= _ = _
    rw [typeOf_text, h]
    rfl
  | @notFlag key n hkey hn =>
    have hread := Node.asBool_eq_error hn
    simp only [List.mem_cons, List.not_mem_nil, or_false] at hkey
    rcases hkey with rfl | rfl | rfl
    all_goals
      show n.asBool >>= _ = _
      rw [hread]
      rfl
  | @notReference n error hn h =>
    show n.asOption (ForeignKey.decode holder) >>= _ = _
    rw [Node.asOption_of_ne_null hn, h]
    rfl

theorem IsRefused.not_isEntry {error : DecodeError} (he : IsRefused holder e error) :
    ¬ IsEntry holder e := by
  intro h
  obtain ⟨d, hd⟩ := accepts_of_isEntry h {}
  rw [refuses_of_isRefused he {}] at hd
  cases hd

/-- Each entry is one of a column or is refused. -/
theorem isEntry_or_isRefused (holder : Holder) (e : String × Node) :
    IsEntry holder e ∨ ∃ error, IsRefused holder e error := by
  obtain ⟨key, n⟩ := e
  have hflag (key : String) (hkey : key ∈ ["allow_null", "unique", "primary_key"]) :
      IsEntry holder (key, n) ∨ ∃ error, IsRefused holder (key, n) error := by
    by_cases hn : ∃ b, n = .bool b
    · obtain ⟨b, rfl⟩ := hn
      exact .inl (.flag hkey b)
    · exact .inr ⟨_, .notFlag hkey fun b hb => hn ⟨b, hb⟩⟩
  cases hk : shape.key? key with
  | none =>
    refine .inr ⟨_, .unknownKey n fun hkey => ?_⟩
    have hnames : key ∈ shape.keys.map shape.name := hkey
    obtain ⟨k, hmem, rfl⟩ := List.mem_map.mp hnames
    rw [key?_name] at hk
    cases hk
  | some k =>
    obtain rfl := name_of_key? hk
    cases k with
    | name =>
      by_cases hn : ∃ s, n = .text s
      · obtain ⟨s, rfl⟩ := hn
        exact .inl (.name s)
      · exact .inr ⟨_, .notText (by decide) fun s hs => hn ⟨s, hs⟩⟩
    | type =>
      by_cases hn : ∃ s, n = .text s
      · obtain ⟨s, rfl⟩ := hn
        cases hread : ColumnType.read s with
        | ok t => exact .inl (.type hread)
        | error error => exact .inr ⟨_, .notType hread⟩
      · exact .inr ⟨_, .notText (by decide) fun s hs => hn ⟨s, hs⟩⟩
    | allowNull => exact hflag _ (by decide)
    | unique => exact hflag _ (by decide)
    | primaryKey => exact hflag _ (by decide)
    | references =>
      by_cases hn : n = .null
      · rw [hn]
        exact .inl .noReference
      · cases hread : ForeignKey.decode holder n with
        | ok r => exact .inl (.reference hread)
        | error error => exact .inr ⟨error, .notReference hn hread⟩

theorem IsEntry.exists_text {n : Node} (h : IsEntry holder ("name", n)) : ∃ s, n = .text s := by
  generalize hkey : "name" = key at h
  cases h with
  | name s => exact ⟨s, rfl⟩
  | flag hflag b =>
    rw [← hkey] at hflag
    exact absurd hflag (by decide)
  | _ => exact absurd hkey (by decide)

theorem IsEntry.exists_type {n : Node} (h : IsEntry holder ("type", n)) :
    ∃ s t, n = .text s ∧ ColumnType.read s = .ok t := by
  generalize hkey : "type" = key at h
  cases h with
  | @type s t h => exact ⟨s, t, rfl, h⟩
  | flag hflag b =>
    rw [← hkey] at hflag
    exact absurd hflag (by decide)
  | _ => exact absurd hkey (by decide)

/-- A table has entries of a column only, or there is a first one that is refused. -/
theorem sound_or_refused (holder : Holder) (entries : List (String × Node)) :
    (∀ e ∈ entries, IsEntry holder e) ∨
    ∃ before e after error, entries = before ++ e :: after ∧ (∀ e ∈ before, IsEntry holder e) ∧
      IsRefused holder e error := by
  induction entries with
  | nil => exact .inl fun e he => absurd he List.not_mem_nil
  | cons e entries ih =>
    rcases isEntry_or_isRefused holder e with he | ⟨error, he⟩
    · rcases ih with hsound | ⟨before, bad, after, error, rfl, hbefore, hbad⟩
      · exact .inl (List.forall_mem_cons.mpr ⟨he, hsound⟩)
      · exact .inr ⟨e :: before, bad, after, error, rfl,
          List.forall_mem_cons.mpr ⟨he, hbefore⟩, hbad⟩
    · exact .inr ⟨[], e, entries, error, rfl, fun e he => absurd he List.not_mem_nil, he⟩

/-! ## Drafts -/

/-- What a draft has to hold once all entries have been read. -/
structure Draft.Holds (holder : Holder) (d : Draft) (entries : List (String × Node)) : Prop where
  name : ∀ s, d.name = some s ↔ ("name", .text s) ∈ entries
  type : ∀ t, d.type = some t ↔ ∃ s, ("type", .text s) ∈ entries ∧ ColumnType.read s = .ok t
  primaryKey : d.primaryKey = true ↔ ("primary_key", .bool true) ∈ entries
  options : ∀ call, d.options.Asks call ↔ Asked holder entries call

variable {n : Node} {d d' : Draft} {k : Key}

theorem typeOf_eq_ok {t : ColumnType} :
    typeOf n = .ok t ↔ ∃ s, n = .text s ∧ ColumnType.read s = .ok t := by
  cases n with
  | text s =>
    rw [typeOf_text]
    cases hread : ColumnType.read s <;> simp [DecodeError.ofKeyword, hread]
  | _ => simp [typeOf, Node.asText, bind, Except.bind]

theorem Draft.put_name (h : Draft.put holder d .name n = .ok d') :
    some <$> n.asText = .ok d'.name := by
  obtain ⟨s, hs, h⟩ := bind_eq_ok.mp h
  cases h
  rw [hs]
  rfl

theorem Draft.put_type (h : Draft.put holder d .type n = .ok d') :
    some <$> typeOf n = .ok d'.type := by
  obtain ⟨t, ht, h⟩ := bind_eq_ok.mp h
  cases h
  rw [ht]
  rfl

/-- The name and the type have parts of the draft of their own too. -/
theorem Draft.put_required (h : Draft.put holder d k n = .ok d') :
    (k ≠ .name → d'.name = d.name) ∧ (k ≠ .type → d'.type = d.type) := by
  cases k <;> obtain ⟨_, _, h⟩ := bind_eq_ok.mp h <;> cases h <;> simp

/-- A draft that was filled from a table with distinct keys holds what stands there. -/
theorem Draft.holds_of_fill {form : RecordForm} (hnodup : (entries.map Prod.fst).Nodup)
    (hfill : shape.fill holder (Draft.put holder) {} (.table entries) = .ok (d, form)) :
    d.Holds holder entries := by
  have hflag (flag : Draft → Bool) {k : Key} {b : Bool}
      (hk : ∀ d n d', Draft.put holder d k n = .ok d' → n = .bool (flag d'))
      (hother : ∀ d k' n d', k' ≠ k → Draft.put holder d k' n = .ok d' → flag d' = flag d)
      (hb : flag {} ≠ b) : flag d = b ↔ (shape.name k, .bool b) ∈ entries := by
    rw [RecordShape.part_eq_iff flag Node.asBool (key?_name k)
      (fun d n d' h => Node.asBool_eq_ok_iff.mpr (hk d n d' h)) hother hnodup hfill hb]
    simp [Node.asBool_eq_ok_iff]
  constructor
  case name =>
    intro s
    rw [RecordShape.part_eq_iff Draft.name (fun n => some <$> n.asText) (key?_name .name)
      (fun _ _ _ => put_name) (fun _ _ _ _ hk h => (put_required h).1 hk) hnodup hfill
      (Option.some_ne_none s).symm]
    simp [map_eq_ok, Node.asText_eq_ok_iff, shape]
  case type =>
    intro t
    rw [RecordShape.part_eq_iff Draft.type (fun n => some <$> typeOf n) (key?_name .type)
      (fun _ _ _ => put_type) (fun _ _ _ _ hk h => (put_required h).2 hk) hnodup hfill
      (Option.some_ne_none t).symm]
    simp [map_eq_ok, typeOf_eq_ok, shape]
  case primaryKey =>
    exact hflag Draft.primaryKey (fun _ _ _ => put_primaryKey)
      (fun _ _ _ _ hk h => (put_other h).1 hk) Bool.false_ne_true
  case options =>
    intro call
    cases call with
    | notNull =>
      have hnullable := hflag (fun d => d.options.nullable) (fun _ _ _ => put_allowNull)
        (fun _ _ _ _ hk h => (put_other h).2.1 hk) Bool.false_ne_true.symm
      exact hnullable.trans ⟨.notNull, fun | .notNull h => h⟩
    | unique =>
      have hunique := hflag (fun d => d.options.unique) (fun _ _ _ => put_unique)
        (fun _ _ _ _ hk h => (put_other h).2.2.1 hk) Bool.false_ne_true
      exact hunique.trans ⟨.unique, fun | .unique h => h⟩
    | referencing r =>
      have hreference := RecordShape.part_eq_iff (fun d : Draft => d.options.references)
        (fun n => n.asOption (ForeignKey.decode holder)) (key?_name .references)
        (fun _ _ _ => put_reference) (fun _ _ _ _ hk h => (put_other h).2.2.2 hk) hnodup hfill
        (Option.some_ne_none r).symm
      refine hreference.trans ⟨?_, ?_⟩
      · rintro ⟨n, hn, hr⟩
        exact .referencing hn (Node.asOption_eq_some.mp hr).2
      · rintro (_ | _ | ⟨hn, hr⟩)
        exact ⟨_, hn, Node.asOption_eq_some.mpr ⟨ForeignKey.ne_null_of_decode hr, hr⟩⟩

end Column

end SchemaEvolution
