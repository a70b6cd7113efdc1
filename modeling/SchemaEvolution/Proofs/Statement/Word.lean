import Mathlib.Data.List.Basic
import SchemaEvolution.Proofs.ColumnType.Sql
import SchemaEvolution.Proofs.Text.Reader
import SchemaEvolution.Table

/-!
# Words of a statement and how they are read

The readers here take from the front of a statement what the statement was put together from: fixed
words, names, types, referential actions and lists of names or values. Each has a lemma that says
that it takes exactly what was written, as long as what follows is something that may follow.
-/

namespace SchemaEvolution

namespace Sql

open Text (Reader Stops)

/-! ## Names -/

/-- The characters of a plain name: letters and digits of ASCII and the underscore. -/
def isNameCharacter (c : Char) : Bool :=
  c.isAlphanum || c = '_'

/-- Whether a name can stand in a statement without quotes. -/
def IsPlainName (name : String) : Prop :=
  name ≠ "" ∧ name.toList.all isNameCharacter = true

instance (name : String) : Decidable (IsPlainName name) :=
  inferInstanceAs (Decidable (_ ∧ _))

/-- Reads a name. -/
def name : Reader String := fun s => do
  let (u, s) ← Reader.run isNameCharacter s
  return (String.ofList u, s)

theorem IsPlainName.toList_ne_nil {n : String} (hn : IsPlainName n) : n.toList ≠ [] := by
  intro h
  exact hn.1 (String.toList_eq_nil_iff.mp h)

theorem IsPlainName.forall_mem {n : String} (hn : IsPlainName n) :
    ∀ c ∈ n.toList, isNameCharacter c = true :=
  List.all_eq_true.mp hn.2

theorem name_append {n : String} {r : List Char} (hn : IsPlainName n)
    (hr : Stops isNameCharacter r) : name (n.toList ++ r) = some (n, r) := by
  rw [name, Reader.run_append hn.toList_ne_nil hn.forall_mem hr]
  simp

/-- A name is not taken for a fixed word that it is not. -/
theorem literal_name_of_ne {n word : String} {r : List Char} (hn : IsPlainName n)
    (hword : IsPlainName word) (hne : n ≠ word) (v : List Char) :
    Reader.literal (word.toList ++ ' ' :: v) (n.toList ++ ' ' :: r) = none := by
  have hspace (t : List Char) : Stops isNameCharacter (' ' :: t) := Text.stops_cons.mpr (by decide)
  cases h : Reader.literal (word.toList ++ ' ' :: v) (n.toList ++ ' ' :: r) with
  | none => rfl
  | some taken =>
    -- the text would have both words at its front
    have htext : n.toList ++ ' ' :: r = word.toList ++ ' ' :: (v ++ taken.2) := by
      rw [Reader.eq_append_of_literal h]
      simp
    have hfront : n.toList = word.toList := by
      rw [← Text.takeWhile_append hn.forall_mem (hspace r), htext,
        Text.takeWhile_append hword.forall_mem (hspace _)]
    exact absurd (String.toList_inj.mp hfront) hne

/-! ## Keywords -/

/-- Reads a keyword of a vocabulary. -/
def keyword {α : Type} (v : Vocabulary α) : Reader α := fun s =>
  (Keyword.firstMatch s v.keywords s).toOption

theorem keyword_action (a : ReferentialAction) (r : List Char) :
    keyword ReferentialAction.vocabulary (a.sql.toList ++ r) = some (a, r) := by
  cases a <;> rfl

/-- What may stand after a type: nothing, or a clause in capitals. -/
inductive FollowsType : List Char → Prop where
  | nothing : FollowsType []
  | clause {c : Char} (r : List Char) (h : c ∈ ['P', 'U', 'N', 'R']) : FollowsType (' ' :: c :: r)

theorem FollowsType.stops {r : List Char} (hr : FollowsType r) : Stops isNameCharacter r := by
  cases hr with
  | nothing => exact Text.stops_nil
  | clause r hc => exact Text.stops_cons.mpr (by decide)

theorem length?_of_follows {r : List Char} (hr : FollowsType r) : ColumnType.length? r = none := by
  cases hr with
  | nothing => rfl
  | clause r hc =>
    simp only [List.mem_cons, List.not_mem_nil, or_false] at hc
    rcases hc with rfl | rfl | rfl | rfl <;> rfl

theorem keyword_type (a : ColumnType) {r : List Char} (hr : FollowsType r) :
    keyword ColumnType.vocabulary (a.sql.toList ++ r) = some (a, r) := by
  cases a with
  | string length =>
    cases length with
    | none =>
      show some (ColumnType.stringFrom r) = some (.string none, r)
      rw [ColumnType.stringFrom, length?_of_follows hr]
    | some n =>
      rw [ColumnType.toList_sql_string_some, List.append_assoc]
      show some (ColumnType.stringFrom (('(' :: (Decimal.digits n.toNat ++ [')'])) ++ r)) = _
      rw [ColumnType.stringFrom, ColumnType.length?_append (ColumnType.isLength_digits n)]
  | _ =>
    cases hr with
    | nothing => rfl
    | clause r hc =>
      simp only [List.mem_cons, List.not_mem_nil, or_false] at hc
      rcases hc with rfl | rfl | rfl | rfl <;> rfl

/-! ## Lists -/

/-- The text before the parenthesis that closes it. -/
def beforeClosing (s : List Char) : Option (List Char) :=
  if s.getLast? = some ')' then some s.dropLast else none

theorem beforeClosing_append (u : List Char) : beforeClosing (u ++ [')']) = some u := by
  rw [beforeClosing, if_pos (List.getLast?_concat ..), List.dropLast_concat]

/-- Whether a value can be told from the others in a list. -/
def IsPlainValue (v : String) : Prop :=
  v ≠ "" ∧ ',' ∉ v.toList

instance (v : String) : Decidable (IsPlainValue v) :=
  inferInstanceAs (Decidable (_ ∧ _))

theorem IsPlainName.isPlainValue {n : String} (hn : IsPlainName n) : IsPlainValue n := by
  refine ⟨hn.1, fun h => ?_⟩
  exact absurd (hn.forall_mem ',' h) (by decide)

/-- Reads the items between commas. -/
def items (s : List Char) : List String :=
  if s = [] then [] else (s.splitOn ',').map String.ofList

theorem toList_commaSeparated (us : List String) :
    (commaSeparated us).toList = [','].intercalate (us.map String.toList) := by
  rw [commaSeparated, String.toList_intercalate]
  rfl

theorem items_commaSeparated {us : List String} (h : ∀ u ∈ us, IsPlainValue u) :
    items (commaSeparated us).toList = us := by
  rw [items, toList_commaSeparated]
  cases us with
  | nil => rfl
  | cons u us =>
    have hsplit : ([','].intercalate ((u :: us).map String.toList)).splitOn ','
        = (u :: us).map String.toList := by
      refine List.splitOn_intercalate ',' (fun v hv => ?_) (List.cons_ne_nil _ _)
      obtain ⟨w, hw, rfl⟩ := List.mem_map.mp hv
      exact (h w hw).2
    -- the empty text stands for no items, and not for an empty one
    have hne : [','].intercalate ((u :: us).map String.toList) ≠ [] := by
      intro hnil
      rw [hnil, List.splitOn_nil] at hsplit
      have hu : [] = u.toList := (List.cons.inj hsplit).1
      exact (h u List.mem_cons_self).1 (String.toList_eq_nil_iff.mp hu.symm)
    rw [if_neg hne, hsplit]
    simp

end Sql

end SchemaEvolution
