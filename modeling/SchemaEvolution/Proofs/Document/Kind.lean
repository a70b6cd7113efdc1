import SchemaEvolution.Document.Plan
import SchemaEvolution.Proofs.Document.Member

/-!
# The kind of a change

A change says of which kind it is under a key of its own, or as its first item, and the rest of it
is read as this kind has it (`Change.decode_of_hasKind`, `Change.hasKind_of_decode`). Nothing but the
name of a kind is read as one; all else is refused with `Change.kindError`.
-/

namespace SchemaEvolution

open Result (bind_eq_ok)

/-- Whether a change gives its kind as the one named, in either form. -/
def Node.HasKind (kind : Change.Kind) : Node → Prop
  | .table entries => entries.lookup "kind" = some (.text kind.name)
  | .list _ items => items.head? = some (.text kind.name)
  | _ => False

namespace Change

variable {n : Node} {kind : Kind} {c : Change}

/-! ## Names of kinds -/

theorem Kind.decode_name (k : Kind) : Kind.decode (.text k.name) = .ok k := by
  cases k <;> rfl

theorem Kind.decode_eq_ok (h : decode n = .ok kind) : n = .text kind.name := by
  cases n with
  | text s =>
    simp only [decode] at h
    cases hfind : Kind.all.find? fun k => k.name == s with
    | none =>
      rw [hfind] at h
      cases h
    | some k =>
      rw [hfind] at h
      have hname : (k.name == s) = true :=
        List.find?_some (p := fun k : Kind => k.name == s) hfind
      rw [← Except.ok.inj h, eq_of_beq hname]
  | _ => cases h

/-- Why a change is refused whose kind is given as a node that is none, or not given at all. -/
def kindError : Option Node → DecodeError
  | none => .missing "kind"
  | some (.text s) => .unknownChoice s ["create_table", "add_column", "insert_row"]
  | some n => .wrongKind n.found .kind

theorem Kind.decode_eq_error (h : ∀ kind : Kind, n ≠ .text kind.name) :
    decode n = .error (kindError (some n)) := by
  cases n with
  | text s =>
    have hfind : (Kind.all.find? fun k => k.name == s) = none := by
      refine List.find?_eq_none.mpr fun kind _ heq => h kind ?_
      rw [eq_of_beq heq]
    simp only [decode, hfind]
    rfl
  | _ => rfl

/-! ## The rest of a change -/

/-- A change without its kind. -/
def body : Node → Node
  | .table entries => .table (entries.filter (·.1 != kindKey))
  | .list form (_ :: rest) => .list form rest
  | n => n

theorem decode_of_hasKind (h : n.HasKind kind) : decode n = decodeBody (body n) kind := by
  cases n with
  | table entries =>
    have hlookup : entries.lookup kindKey = some (.text kind.name) := h
    simp only [decode, hlookup, Kind.decode_name]
    rfl
  | list form items =>
    cases items with
    | nil => cases h
    | cons k rest =>
      have hhead : k = .text kind.name := Option.some.inj h
      simp only [decode, hhead, Kind.decode_name]
      rfl
  | _ => cases h

theorem kind_of_decodeBody (h : decodeBody n kind = .ok c) : c.kind = kind := by
  cases kind with
  | createTable =>
    rw [decodeBody, map_eq_pure_bind, bind_eq_ok] at h
    obtain ⟨t, _, h⟩ := h
    cases h
    rfl
  | addColumn | insertRow =>
    obtain ⟨_, _, h⟩ := bind_eq_ok.mp h
    obtain ⟨_, _, h⟩ := bind_eq_ok.mp h
    obtain ⟨_, _, h⟩ := bind_eq_ok.mp h
    cases h
    rfl

/-- Whatever is read as a change says which kind of change it is. -/
theorem hasKind_of_decode (h : decode n = .ok c) : n.HasKind c.kind := by
  cases n with
  | table entries =>
    simp only [decode] at h
    cases hlookup : entries.lookup kindKey with
    | none =>
      rw [hlookup] at h
      cases h
    | some k =>
      rw [hlookup] at h
      obtain ⟨kind, hkind, h⟩ := bind_eq_ok.mp h
      rw [kind_of_decodeBody h]
      exact hlookup.trans (congrArg some (Kind.decode_eq_ok hkind))
  | list form items =>
    cases items with
    | nil => cases h
    | cons k rest =>
      obtain ⟨kind, hkind, h⟩ := bind_eq_ok.mp h
      rw [kind_of_decodeBody h]
      exact congrArg some (Kind.decode_eq_ok hkind)
  | _ => cases h

end Change

end SchemaEvolution
