import SchemaEvolution.Document.Column
import SchemaEvolution.Proofs.Column.Construction
import SchemaEvolution.Proofs.Document.Member

/-!
# What a column is read as

A document is read as what a column is held as (`Column.decode_eq_ok_iff_toRaw`). If that is a key, the
document gives no option that another column could have (`Column.Raw.given?_of_decode`). So all that
can be obtained, by calls or from a document, is sound (`Column.Raw.isSound_of_obtained`).
-/

namespace SchemaEvolution.Column

open Result (bind_eq_ok map_eq_error map_eq_ok)

/-! ## Documents -/

variable {holder : Holder} {n : Node} {d d' : Draft} {form : RecordForm}

/-- What is read as a column is what the column is held as. -/
theorem map_toRaw_decode (holder : Holder) (n : Node) :
    toRaw <$> decode holder n = Raw.decode holder n := by
  rw [decode]
  split
  · next raw hraw => exact hraw.symm
  · next e he => exact he.symm

theorem decode_eq_ok_iff_toRaw {c : Column} :
    decode holder n = .ok c ↔ Raw.decode holder n = .ok c.toRaw := by
  rw [← map_toRaw_decode, map_eq_ok]
  constructor
  · intro h
    exact ⟨c, h, rfl⟩
  · rintro ⟨c', h, hc⟩
    rw [h, toRaw_inj hc]

theorem decode_eq_error_iff {e : DecodeError} :
    decode holder n = .error e ↔ Raw.decode holder n = .error e := by
  rw [← map_toRaw_decode, map_eq_error]

/-- A flag that a member is read into is what stands there. -/
theorem Draft.put_flag {put : Bool → Draft} (flag : Draft → Bool)
    (h : (do return put (← n.asBool)) = Except.ok d') (hput : ∀ b, flag (put b) = b) :
    n = .bool (flag d') := by
  obtain ⟨b, hb, h⟩ := bind_eq_ok.mp h
  cases h
  rw [hput]
  exact Node.asBool_eq_ok hb

theorem Draft.put_primaryKey (h : Draft.put holder d .primaryKey n = .ok d') :
    n = .bool d'.primaryKey :=
  put_flag Draft.primaryKey h fun _ => rfl

theorem Draft.put_allowNull (h : Draft.put holder d .allowNull n = .ok d') :
    n = .bool d'.options.nullable :=
  put_flag (fun d => d.options.nullable) h fun _ => rfl

theorem Draft.put_unique (h : Draft.put holder d .unique n = .ok d') :
    n = .bool d'.options.unique :=
  put_flag (fun d => d.options.unique) h fun _ => rfl

theorem Draft.put_reference (h : Draft.put holder d .references n = .ok d') :
    n.asOption (ForeignKey.decode holder) = .ok d'.options.references := by
  obtain ⟨r, hr, h⟩ := bind_eq_ok.mp h
  cases h
  exact hr

/-- Each member is written to a part of the draft of its own. -/
theorem Draft.put_other {k : Key} (h : Draft.put holder d k n = .ok d') :
    (k ≠ .primaryKey → d'.primaryKey = d.primaryKey) ∧
    (k ≠ .allowNull → d'.options.nullable = d.options.nullable) ∧
    (k ≠ .unique → d'.options.unique = d.options.unique) ∧
    (k ≠ .references → d'.options.references = d.options.references) := by
  cases k <;> obtain ⟨_, _, h⟩ := bind_eq_ok.mp h <;> cases h <;> simp

theorem Options.conflict?_eq_none_iff {o : Options} : o.conflict? = none ↔ o = {} := by
  obtain ⟨nullable, unique, references⟩ := o
  cases nullable <;> cases unique <;> cases references <;> simp [conflict?]

/-- A column is a key if its draft is, and then the draft has no options. -/
theorem Draft.of_finish {c : Raw} (h : d.finish form = .ok c) :
    c.isPrimaryKey = d.primaryKey ∧ (c.isPrimaryKey = true → d.options = {}) := by
  obtain ⟨name, _, h⟩ := bind_eq_ok.mp h
  obtain ⟨type, _, h⟩ := bind_eq_ok.mp h
  cases hkey : d.primaryKey with
  | false =>
    simp only [hkey, Bool.false_eq_true, if_false] at h
    cases h
    exact ⟨rfl, nofun⟩
  | true =>
    simp only [hkey, if_true] at h
    cases hconflict : d.options.conflict? with
    | some conflict => simp [hconflict, throw, throwThe, MonadExceptOf.throw] at h
    | none =>
      simp only [hconflict] at h
      cases h
      exact ⟨rfl, fun _ => Options.conflict?_eq_none_iff.mp hconflict⟩

/-- A document that is read as a key says that it is one, and gives no option but those that say
nothing. -/
theorem Raw.given?_of_decode {c : Raw} (h : Raw.decode holder n = .ok c)
    (hc : c.isPrimaryKey = true) :
    shape.given? n .primaryKey = some (.bool true) ∧
    (shape.given? n .allowNull = none ∨ shape.given? n .allowNull = some (.bool true)) ∧
    (shape.given? n .unique = none ∨ shape.given? n .unique = some (.bool false)) ∧
    (shape.given? n .references = none ∨ shape.given? n .references = some .null) := by
  obtain ⟨⟨draft, form⟩, hfill, hfinish⟩ := bind_eq_ok.mp h
  obtain ⟨hkey, hoptions⟩ := Draft.of_finish hfinish
  have hdefault := hoptions hc
  have hnullable : draft.options.nullable = true := by rw [hdefault]
  have hunique : draft.options.unique = false := by rw [hdefault]
  have hreferences : draft.options.references = none := by rw [hdefault]
  rw [hc] at hkey
  have hkeyGiven := RecordShape.given?_flag (fun d : Draft => d.primaryKey)
    (fun _ _ _ h => Draft.put_primaryKey h) (fun _ _ _ _ hk h => (Draft.put_other h).1 hk) hfill
  have hnullableGiven := RecordShape.given?_flag (fun d : Draft => d.options.nullable)
    (fun _ _ _ h => Draft.put_allowNull h) (fun _ _ _ _ hk h => (Draft.put_other h).2.1 hk) hfill
  have huniqueGiven := RecordShape.given?_flag (fun d : Draft => d.options.unique)
    (fun _ _ _ h => Draft.put_unique h) (fun _ _ _ _ hk h => (Draft.put_other h).2.2.1 hk) hfill
  have hreferencesGiven := RecordShape.given?_of_fill (fun d : Draft => d.options.references)
    (fun n r => n.asOption (ForeignKey.decode holder) = .ok r)
    (fun _ _ _ h => Draft.put_reference h)
    (fun _ _ _ _ hk h => (Draft.put_other h).2.2.2 hk) hfill
  refine ⟨?_, ?_, ?_, ?_⟩
  · -- the empty draft is no key, so the document has to say it
    rcases hkeyGiven with ⟨_, hflag⟩ | hvalue
    · rw [← hkey] at hflag
      exact absurd hflag (by decide)
    · rw [hvalue, ← hkey]
  · rcases hnullableGiven with ⟨hnone, _⟩ | hvalue
    · exact .inl hnone
    · rw [hnullable] at hvalue
      exact .inr hvalue
  · rcases huniqueGiven with ⟨hnone, _⟩ | hvalue
    · exact .inl hnone
    · rw [hunique] at hvalue
      exact .inr hvalue
  · cases hvalue : shape.given? n .references with
    | none => exact .inl rfl
    | some value =>
      rw [hvalue, hreferences] at hreferencesGiven
      exact .inr (congrArg some (Node.eq_null_of_asOption hreferencesGiven))

/-! ## What can be obtained -/

/-- The columns that can be obtained: made as a key or without options, asked for options, or read
from a document. -/
inductive Raw.Obtained : Raw → Prop
  | ordinary (name : String) (type : ColumnType) : Obtained (.ordinary name type)
  | primaryKey (name : String) (type : ColumnType) : Obtained (.primaryKey name type)
  | asked {c : Raw} (h : Obtained c) (call : Call) : Obtained (c.ask call)
  | read {holder : Holder} {n : Node} {c : Raw} (h : Raw.decode holder n = .ok c) : Obtained c

theorem Raw.isSound_of_obtained {c : Raw} (h : c.Obtained) : c.IsSound := by
  induction h with
  | ordinary name type => exact isSound_ordinary name type
  | primaryKey name type => exact isSound_primaryKey name type
  | asked _ call ih => exact ih.ask call
  | read h => exact isSound_of_decode h

theorem Raw.Obtained.after {c : Raw} (h : c.Obtained) (calls : List Call) :
    (c.after calls).Obtained := by
  induction calls generalizing c with
  | nil => exact h
  | cons call calls ih =>
    rw [Raw.after, List.foldl_cons]
    exact ih (h.asked call)

end SchemaEvolution.Column
