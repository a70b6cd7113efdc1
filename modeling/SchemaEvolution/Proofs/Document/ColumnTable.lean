import SchemaEvolution.Proofs.Document.ColumnEntry
import SchemaEvolution.Proofs.Json.KeyOrder
import SchemaEvolution.Proofs.Toml.KeyOrder

/-!
# What becomes of a table that describes a column

A table is looked at three times. Its entries are read in their order, and the first one that is no
entry of a column decides the error. Then the name and the type have to be there. At last a primary
key may ask for nothing that belongs to other columns. What is read is the column that calls would
have made from the same name and type.

`Column.Outcome` says so without the reader. Main result: `Column.decode_table`.
-/

namespace SchemaEvolution.Column

variable {holder : Holder} {entries : List (String × Node)}

/-! ## Outcomes -/

/-- Entries that all belong to a column, among them its name and its type. -/
structure Describes (holder : Holder) (entries : List (String × Node)) (name : String)
    (type : ColumnType) : Prop where
  sound : ∀ e ∈ entries, IsEntry holder e
  name : ("name", .text name) ∈ entries
  type : ∃ s, ("type", .text s) ∈ entries ∧ ColumnType.read s = .ok type

/-- What reading a table with these entries has to give. -/
inductive Outcome (holder : Holder) (entries : List (String × Node)) :
    Except DecodeError Column → Prop
  /-- The first entry that is none of a column decides the error. -/
  | refused {before after : List (String × Node)} {e : String × Node} {error : DecodeError}
    (hentries : entries = before ++ e :: after) (hbefore : ∀ e ∈ before, IsEntry holder e)
    (he : IsRefused holder e error) : Outcome holder entries (.error error)
  | noName (hsound : ∀ e ∈ entries, IsEntry holder e) (hname : "name" ∉ entries.map Prod.fst) :
    Outcome holder entries (.error (.missing "name"))
  | noType (hsound : ∀ e ∈ entries, IsEntry holder e) (hname : "name" ∈ entries.map Prod.fst)
    (htype : "type" ∉ entries.map Prod.fst) : Outcome holder entries (.error (.missing "type"))
  /-- The first option that a key cannot have decides the error. -/
  | conflict {name : String} {type : ColumnType} {call : Call}
    (hdescribes : Describes holder entries name type)
    (hkey : ("primary_key", .bool true) ∈ entries) (hcall : Asked holder entries call)
    (hfirst : ∀ other, Asked holder entries other → call.conflict.rank ≤ other.conflict.rank) :
    Outcome holder entries (.error (.conflict name call.conflict))
  | primaryKey {name : String} {type : ColumnType} (hdescribes : Describes holder entries name type)
    (hkey : ("primary_key", .bool true) ∈ entries)
    (hcalls : ∀ call, ¬ Asked holder entries call) :
    Outcome holder entries (.ok (primaryKey name type))
  /-- The calls may be made in any order, and more than once. -/
  | ordinary {name : String} {type : ColumnType} {calls : List Call}
    (hdescribes : Describes holder entries name type)
    (hkey : ("primary_key", .bool true) ∉ entries)
    (hcalls : ∀ call, call ∈ calls ↔ Asked holder entries call) :
    Outcome holder entries (.ok ((ordinary name type).after calls))

/-! ## Tables -/

theorem Describes.mem_keys {name : String} {type : ColumnType}
    (h : Describes holder entries name type) :
    "name" ∈ entries.map Prod.fst ∧ "type" ∈ entries.map Prod.fst := by
  obtain ⟨s, hs, -⟩ := h.type
  exact ⟨List.mem_map.mpr ⟨_, h.name, rfl⟩, List.mem_map.mpr ⟨_, hs, rfl⟩⟩

/-- Sound entries with the two keys that have to be there describe a column. -/
theorem exists_describes (hsound : ∀ e ∈ entries, IsEntry holder e)
    (hname : "name" ∈ entries.map Prod.fst) (htype : "type" ∈ entries.map Prod.fst) :
    ∃ name type, Describes holder entries name type := by
  obtain ⟨⟨_, n⟩, hn, rfl⟩ := List.mem_map.mp hname
  obtain ⟨name, rfl⟩ := (hsound _ hn).exists_text
  obtain ⟨⟨_, m⟩, hm, rfl⟩ := List.mem_map.mp htype
  obtain ⟨s, type, rfl, hs⟩ := (hsound _ hm).exists_type
  exact ⟨name, type, hsound, hn, s, hm, hs⟩

theorem decode_of_refused {before after : List (String × Node)} {error : DecodeError}
    (hbefore : ∀ e ∈ before, IsEntry holder e) (he : IsRefused holder e error) :
    decode holder (.table (before ++ e :: after)) = .error error := by
  rw [decode_eq_error_iff]
  have haccepts : ∀ e ∈ before, shape.Accepts (Draft.put holder) e := by
    intro e he
    exact accepts_of_isEntry (hbefore e he)
  have hfold : (before ++ e :: after).foldlM (shape.putEntry (Draft.put holder)) {}
      = .error error := RecordShape.foldlM_eq_error haccepts (refuses_of_isRefused he) {}
  simp only [Raw.decode, RecordShape.fill, hfold]
  rfl

/-- A table of sound entries is read if the draft that it fills can be finished. -/
theorem exists_holds (hnodup : (entries.map Prod.fst).Nodup)
    (hsound : ∀ e ∈ entries, IsEntry holder e) :
    ∃ d : Draft, d.Holds holder entries ∧ Raw.decode holder (.table entries) = d.finish .keyed := by
  have haccepts : ∀ e ∈ entries, shape.Accepts (Draft.put holder) e := by
    intro e he
    exact accepts_of_isEntry (hsound e he)
  obtain ⟨d, hfold⟩ := RecordShape.exists_foldlM haccepts {}
  have hfill : shape.fill holder (Draft.put holder) {} (.table entries) = .ok (d, .keyed) := by
    simp only [RecordShape.fill, hfold]
    rfl
  refine ⟨d, Draft.holds_of_fill hnodup hfill, ?_⟩
  rw [Raw.decode, hfill]
  rfl

/-- Once the name and the type are there, the draft decides by its flag and its options. -/
theorem Draft.Holds.finish {d : Draft} {name : String} {type : ColumnType}
    (hd : d.Holds holder entries) (hdescribes : Describes holder entries name type)
    (form : RecordForm) :
    d.finish form =
      if d.primaryKey then
        match d.options.conflict? with
        | some conflict => .error (.conflict name conflict)
        | none => .ok (.primaryKey name type)
      else .ok { Raw.ordinary name type with options := d.options } := by
  have hname : d.name = some name := (hd.name name).mpr hdescribes.name
  have htype : d.type = some type := (hd.type type).mpr hdescribes.type
  rw [Draft.finish, hname, htype]
  cases d.primaryKey <;> rfl

theorem decode_of_outcome (hnodup : (entries.map Prod.fst).Nodup)
    {result : Except DecodeError Column} (h : Outcome holder entries result) :
    decode holder (.table entries) = result := by
  cases h with
  | refused hentries hbefore he =>
    rw [hentries]
    exact decode_of_refused hbefore he
  | noName hsound hname =>
    obtain ⟨d, hd, hdecode⟩ := exists_holds hnodup hsound
    have hnone : d.name = none := by
      apply Option.eq_none_iff_forall_ne_some.mpr
      intro s hs
      exact hname (List.mem_map.mpr ⟨_, (hd.name s).mp hs, rfl⟩)
    rw [decode_eq_error_iff, hdecode, Draft.finish, hnone]
    rfl
  | noType hsound hname htype =>
    obtain ⟨d, hd, hdecode⟩ := exists_holds hnodup hsound
    obtain ⟨⟨_, n⟩, hmem, rfl⟩ := List.mem_map.mp hname
    obtain ⟨name, rfl⟩ := (hsound _ hmem).exists_text
    have hsome : d.name = some name := (hd.name name).mpr hmem
    have hnone : d.type = none := by
      apply Option.eq_none_iff_forall_ne_some.mpr
      intro t ht
      obtain ⟨s, hs, -⟩ := (hd.type t).mp ht
      exact htype (List.mem_map.mpr ⟨_, hs, rfl⟩)
    rw [decode_eq_error_iff, hdecode, Draft.finish, hsome, hnone]
    rfl
  | @conflict name type call hdescribes hkey hcall hfirst =>
    obtain ⟨d, hd, hdecode⟩ := exists_holds hnodup hdescribes.sound
    have hconflict : d.options.conflict? = some call.conflict := by
      apply Options.conflict?_eq_some ((hd.options call).mpr hcall)
      intro other hother
      exact hfirst other ((hd.options other).mp hother)
    rw [decode_eq_error_iff, hdecode, hd.finish hdescribes, hd.primaryKey.mpr hkey, hconflict]
    rfl
  | primaryKey hdescribes hkey hcalls =>
    obtain ⟨d, hd, hdecode⟩ := exists_holds hnodup hdescribes.sound
    have hoptions : d.options = {} := by
      apply Options.eq_default
      intro call hcall
      exact hcalls call ((hd.options call).mp hcall)
    rw [decode_eq_ok_iff_toRaw, hdecode, hd.finish hdescribes, hd.primaryKey.mpr hkey, hoptions]
    rfl
  | @ordinary name type calls hdescribes hkey hcalls =>
    obtain ⟨d, hd, hdecode⟩ := exists_holds hnodup hdescribes.sound
    have hordinary : d.primaryKey = false := by
      apply Bool.eq_false_iff.mpr
      intro htrue
      exact hkey (hd.primaryKey.mp htrue)
    have hasked : ∀ call, call ∈ calls ↔ d.options.Asks call := by
      intro call
      exact (hcalls call).trans (hd.options call).symm
    rw [decode_eq_ok_iff_toRaw, hdecode, hd.finish hdescribes, hordinary, after_eq hasked name type]
    rfl

/-- Every table with distinct keys has an outcome. -/
theorem exists_outcome (holder : Holder) (hnodup : (entries.map Prod.fst).Nodup) :
    ∃ result, Outcome holder entries result := by
  rcases sound_or_refused holder entries with
    hsound | ⟨before, e, after, error, hentries, hbefore, he⟩
  · by_cases hname : "name" ∈ entries.map Prod.fst
    · by_cases htype : "type" ∈ entries.map Prod.fst
      · obtain ⟨name, type, hdescribes⟩ := exists_describes hsound hname htype
        -- the draft knows all that is asked for
        obtain ⟨d, hd, -⟩ := exists_holds hnodup hsound
        by_cases hkey : ("primary_key", .bool true) ∈ entries
        · by_cases hcalls : ∃ call, Asked holder entries call
          · obtain ⟨call, hcall⟩ := hcalls
            obtain ⟨first, hfirst, hleast⟩ := Options.exists_first ((hd.options call).mpr hcall)
            refine ⟨_, .conflict hdescribes hkey ((hd.options first).mp hfirst) ?_⟩
            intro other hother
            exact hleast other ((hd.options other).mpr hother)
          · exact ⟨_, .primaryKey hdescribes hkey fun call hcall => hcalls ⟨call, hcall⟩⟩
        · have hcalls : ∀ call, call ∈ d.options.calls ↔ Asked holder entries call := by
            intro call
            exact (Options.mem_calls d.options call).trans (hd.options call)
          exact ⟨_, .ordinary hdescribes hkey hcalls⟩
      · exact ⟨_, .noType hsound hname htype⟩
    · exact ⟨_, .noName hsound hname⟩
  · exact ⟨_, .refused hentries hbefore he⟩

/-- A column comes of a table if all entries belong to a column, the name and the type are among
them, and a primary key asks for nothing else. -/
theorem exists_ok_iff (holder : Holder) (hnodup : (entries.map Prod.fst).Nodup) :
    (∃ c, Outcome holder entries (.ok c)) ↔
      (∀ e ∈ entries, IsEntry holder e) ∧
      "name" ∈ entries.map Prod.fst ∧ "type" ∈ entries.map Prod.fst ∧
      ¬ (("primary_key", .bool true) ∈ entries ∧ ∃ call, Asked holder entries call) := by
  constructor
  · rintro ⟨c, h⟩
    cases h with
    | primaryKey hdescribes hkey hcalls =>
      refine ⟨hdescribes.sound, hdescribes.mem_keys.1, hdescribes.mem_keys.2, ?_⟩
      rintro ⟨_, call, hcall⟩
      exact hcalls call hcall
    | ordinary hdescribes hkey hcalls =>
      refine ⟨hdescribes.sound, hdescribes.mem_keys.1, hdescribes.mem_keys.2, ?_⟩
      rintro ⟨hkey', _⟩
      exact hkey hkey'
  · rintro ⟨hsound, hname, htype, hkey⟩
    obtain ⟨result, h⟩ := exists_outcome holder hnodup
    cases result with
    | ok c => exact ⟨c, h⟩
    | error error =>
      -- every way to be refused is excluded
      cases h with
      | refused hentries hbefore he =>
        refine absurd (hsound _ ?_) he.not_isEntry
        rw [hentries]
        exact List.mem_append_right _ List.mem_cons_self
      | noName _ hno => exact absurd hname hno
      | noType _ _ hno => exact absurd htype hno
      | conflict _ hkey' hcall _ => exact absurd ⟨hkey', _, hcall⟩ hkey

theorem decode_eq_iff (holder : Holder) (hnodup : (entries.map Prod.fst).Nodup)
    (result : Except DecodeError Column) :
    decode holder (.table entries) = result ↔ Outcome holder entries result := by
  refine ⟨?_, decode_of_outcome hnodup⟩
  rintro rfl
  obtain ⟨result, hresult⟩ := exists_outcome holder hnodup
  rw [decode_of_outcome hnodup hresult]
  exact hresult

/-- A table with distinct keys is read with exactly the outcome that its entries have, whatever
their order and values; a column comes of it if all entries belong to a column, the name and the
type are among them, and a primary key asks for nothing else. The entries are visited in the order
of their keys if the document is JSON, and in the order in which the keys first appear if it is
TOML, in braces as well as on lines of their own. -/
theorem decode_table :
    (∀ (holder : Holder) (entries : List (String × Node)), (entries.map Prod.fst).Nodup →
      (∀ result, decode holder (.table entries) = result ↔ Outcome holder entries result) ∧
      ((∃ c, decode holder (.table entries) = .ok c) ↔
        (∀ e ∈ entries, IsEntry holder e) ∧
        "name" ∈ entries.map Prod.fst ∧ "type" ∈ entries.map Prod.fst ∧
        ¬ (("primary_key", .bool true) ∈ entries ∧ ∃ call, Asked holder entries call))) ∧
    (∀ text n entries, Json.read text = some n → Node.IsPart (.table entries) n →
      entries.Pairwise fun e e' => e.1 < e'.1) ∧
    (∀ pairs entries, Toml.tableOfPairs pairs = some entries →
      (Toml.entryNodes entries).map Prod.fst = (Toml.heads pairs).foldl Toml.addKey []) ∧
    (∀ d d' pairs, (pairs.map fun p => Toml.Line.pair p.1 p.2).foldlM Toml.Draft.add d = some d' →
      (Toml.entryNodes d'.table).map Prod.fst =
        (Toml.heads pairs).foldl Toml.addKey ((Toml.entryNodes d.table).map Prod.fst)) := by
  refine ⟨fun holder entries hnodup => ⟨decode_eq_iff holder hnodup, ?_⟩, ?_, ?_, ?_⟩
  · rw [← exists_ok_iff holder hnodup]
    exact exists_congr fun c => decode_eq_iff holder hnodup (.ok c)
  · intro text n entries hread hpart
    exact Json.sorted_of_read hread entries hpart
  · intro pairs entries h
    rw [Toml.keys_entryNodes]
    exact Toml.keys_tableOfPairs h
  · intro d d' pairs h
    rw [Toml.keys_entryNodes, Toml.keys_entryNodes]
    exact (Toml.Draft.keys_pairs pairs h).2

/-- A reference is read as the call for it, a key is refused for an option before its reference, and
a value of the wrong kind is refused before an unknown key behind it. -/
theorem decode_table_in_order :
    let reference : Node := .table [("field", .text "id"), ("table", .text "users")]
    let r : ForeignKey := { table := "users", column := "id" }
    decode .change (.table [("references", reference), ("type", .text "INT"), ("name", .text "u")])
      = .ok ((ordinary "u" .integer).after [.referencing r, .referencing r]) ∧
    decode .change (.table [("references", reference), ("type", .text "serial"),
      ("primary_key", .bool true), ("unique", .bool true), ("name", .text "id")])
      = .error (.conflict "id" .unique) ∧
    decode .change (.table [("name", .text "u"), ("type", .bool true), ("default", .null)])
      = .error (.wrongKind (.bool true) .string) := by
  intro reference r
  have hreference : IsEntry .change ("references", reference) := .reference (r := r) rfl
  refine ⟨?_, ?_, ?_⟩
  · have hdescribes : Describes .change
        [("references", reference), ("type", .text "INT"), ("name", .text "u")] "u" .integer := by
      refine ⟨?_, by simp, "INT", by simp, by decide⟩
      simp only [List.forall_mem_cons]
      exact ⟨hreference, .type (t := .integer) (by decide), .name "u", nofun⟩
    refine ((decode_table.1 .change _ (by decide)).1 _).mpr (.ordinary hdescribes (by simp) ?_)
    intro call
    constructor
    · intro hcall
      have hcall : call = .referencing r := by simpa using hcall
      rw [hcall]
      exact .referencing List.mem_cons_self rfl
    · intro hcall
      cases hcall with
      | notNull h => simp at h
      | unique h => simp at h
      | @referencing n r' h hr =>
        have hn : n = reference := by simpa using h
        rw [hn] at hr
        cases hr
        exact List.mem_cons_self
  · have hdescribes : Describes .change
        [("references", reference), ("type", .text "serial"), ("primary_key", .bool true),
          ("unique", .bool true), ("name", .text "id")] "id" .serial := by
      refine ⟨?_, by simp, "serial", by simp, by decide⟩
      simp only [List.forall_mem_cons]
      exact ⟨hreference, .type (t := .serial) (by decide), .flag (by decide) true,
        .flag (by decide) true, .name "id", nofun⟩
    refine ((decode_table.1 .change _ (by decide)).1 _).mpr
      (.conflict hdescribes (by simp) (.unique (by simp)) ?_)
    intro other hother
    cases hother with
    | notNull h => simp at h
    | unique h => exact Nat.le_refl _
    | referencing h hr => exact Nat.le_succ 1
  · refine ((decode_table.1 .change _ (by decide)).1 _).mpr ?_
    show Outcome .change ([("name", .text "u")] ++ ("type", .bool true) :: [("default", .null)]) _
    refine .refused rfl ?_ (.notText (by decide) nofun)
    simp only [List.forall_mem_cons]
    exact ⟨.name "u", nofun⟩

end SchemaEvolution.Column
