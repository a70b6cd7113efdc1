import SchemaEvolution.Loading
import SchemaEvolution.Proofs.Document.RoundTrip
import SchemaEvolution.Proofs.Plan.Skeleton
import SchemaEvolution.Proofs.Toml.Lines

/-!
# New plan files are plans

The lines of a new plan file are plain: apart from the name all of them are comments or empty, and a time
is written with characters that may stand in a comment (`LocalTime.isMark_of_mem_rfc3339`). So the file is
read as a plan that has the name and nothing else (`Plan.Skeleton.ofToml_content`).
-/

namespace SchemaEvolution

open Decimal (padded)
open Toml (PlainLine isPlainChar isVisible)

/-! ## Characters -/

/-- What holds of the letters and digits among the first 128 characters holds of all. -/
theorem of_isAlphanum {q : Char → Bool}
    (hq : ∀ n < 128, (Char.ofNat n).isAlphanum = true → q (Char.ofNat n) = true) {c : Char}
    (h : c.isAlphanum = true) : q c = true := by
  have hc := hq c.toNat (Nat.lt_succ_iff.mpr (val_le_of_isAlphanum h))
  rw [Char.ofNat_toNat] at hc
  exact hc h

namespace LocalTime

/-- Whether a character stands in times. -/
def isMark (c : Char) : Bool :=
  c.isDigit || ['+', '-', ':', '.', 'T'].contains c

theorem isMark_of_mem_padded {width n : Nat} : ∀ c ∈ padded width n, isMark c = true := by
  intro c hc
  rw [isMark, Decimal.isDigit_of_mem_padded hc, Bool.true_or]

theorem isMark_of_mem_yearText (t : LocalTime) : ∀ c ∈ t.yearText, isMark c = true := by
  intro c hc
  rcases mem_yearText hc with h | rfl | rfl
  · rw [isMark, h, Bool.true_or]
  · rfl
  · rfl

theorem isMark_of_mem_dateAndTime (t : LocalTime) : ∀ c ∈ t.dateAndTime, isMark c = true := by
  have hpadded (n : Nat) : ∀ c ∈ padded 2 n, isMark c = true := isMark_of_mem_padded
  simp only [dateAndTime, List.forall_mem_append, List.forall_mem_cons]
  exact ⟨⟨⟨⟨⟨t.isMark_of_mem_yearText, rfl, hpadded _⟩, rfl, hpadded _⟩, rfl, hpadded _⟩, rfl,
    hpadded _⟩, rfl, hpadded _⟩

theorem isMark_of_mem_fraction (t : LocalTime) : ∀ c ∈ t.fraction, isMark c = true := by
  unfold fraction
  split_ifs
  · exact List.forall_mem_nil _
  all_goals exact List.forall_mem_cons.mpr ⟨rfl, isMark_of_mem_padded⟩

theorem isMark_of_mem_offsetText (t : LocalTime) : ∀ c ∈ t.offsetText, isMark c = true := by
  have hsign : isMark (if t.offset < 0 then '-' else '+') = true := by
    split <;> rfl
  simp only [offsetText, List.cons_append, List.forall_mem_append, List.forall_mem_cons]
  exact ⟨hsign, isMark_of_mem_padded, rfl, isMark_of_mem_padded⟩

theorem isMark_of_mem_rfc3339 (t : LocalTime) : ∀ c ∈ t.rfc3339.toList, isMark c = true := by
  rw [rfc3339, String.toList_ofList, List.forall_mem_append, List.forall_mem_append]
  exact ⟨⟨t.isMark_of_mem_dateAndTime, t.isMark_of_mem_fraction⟩, t.isMark_of_mem_offsetText⟩

theorem isVisible_of_isMark {c : Char} (h : isMark c = true) : isVisible c = true := by
  rw [isMark, Bool.or_eq_true] at h
  rcases h with hdigit | hsign
  · exact of_isAlphanum (by decide) (isAlphanum_of_isDigit hdigit)
  · have hvisible : ['+', '-', ':', '.', 'T'].all isVisible = true := by decide
    exact List.all_eq_true.mp hvisible c (List.contains_iff_mem.mp hsign)

end LocalTime

namespace Plan.Skeleton

variable {s : Skeleton}

/-! ## Lines -/

theorem isPlainChar_of_mem_name (h : isName s.name = true) :
    ∀ c ∈ s.name.toList, isPlainChar c = true := by
  intro c hc
  rcases ((isName_eq_true_iff s.name).mp h).2 c hc with hletter | rfl
  · exact of_isAlphanum (by decide) hletter
  · decide

/-- The comments that show an example of a change. -/
def exampleComments : List String :=
  [" [[change]]",
   " kind = \"create_table\"",
   " name = \"example\"",
   "",
   " [[change.fields]]",
   " name = \"id\"",
   " type = \"serial\"",
   " primary_key = true"]

/-- The lines of the file by their forms. -/
def plainLines (s : Skeleton) : List PlainLine :=
  .comment (" Migration: " ++ s.name) ::
  .comment (" Created: " ++ s.created.localTime.rfc3339) ::
  .pair "name" s.name ::
  .empty ::
  exampleComments.map .comment

theorem lines_eq (s : Skeleton) : s.lines = s.plainLines.map PlainLine.text := by
  have hmigration : "# Migration: " ++ s.name = "#" ++ (" Migration: " ++ s.name) := by
    rw [← String.append_assoc]
    rfl
  have hcreated (time : String) : "# Created: " ++ time = "#" ++ (" Created: " ++ time) := by
    rw [← String.append_assoc]
    rfl
  show ("# Migration: " ++ s.name) :: ("# Created: " ++ s.created.localTime.rfc3339) :: _ = _
  rw [hmigration, hcreated]
  rfl

theorem isValid_of_mem_plainLines (h : isName s.name = true) :
    ∀ l ∈ s.plainLines, l.isValid = true := by
  have hplain := isPlainChar_of_mem_name h
  have hmigration : (PlainLine.comment (" Migration: " ++ s.name)).isValid = true := by
    rw [PlainLine.isValid, String.toList_append, List.all_append, Bool.and_eq_true]
    refine ⟨by decide, List.all_eq_true.mpr ?_⟩
    intro c hc
    have hc := hplain c hc
    rw [isPlainChar, Bool.and_eq_true, Bool.and_eq_true] at hc
    exact hc.1.1
  have hcreated :
      (PlainLine.comment (" Created: " ++ s.created.localTime.rfc3339)).isValid = true := by
    rw [PlainLine.isValid, String.toList_append, List.all_append, Bool.and_eq_true]
    refine ⟨by decide, List.all_eq_true.mpr ?_⟩
    intro c hc
    exact LocalTime.isVisible_of_isMark (s.created.localTime.isMark_of_mem_rfc3339 c hc)
  have hname : (PlainLine.pair "name" s.name).isValid = true :=
    PlainLine.isValid_pair_iff.mpr ⟨by decide, List.all_eq_true.mp (by decide), hplain⟩
  have hexample : (exampleComments.map PlainLine.comment).all PlainLine.isValid = true := by
    decide
  simp only [plainLines, List.forall_mem_cons]
  exact ⟨hmigration, hcreated, hname, rfl, List.all_eq_true.mp hexample⟩

/-! ## The file -/

theorem read_content (h : isName s.name = true) :
    Toml.read s.content = some (.table [("name", .text s.name)]) := by
  have hkeys : ((PlainLine.pairs s.plainLines).map Prod.fst).Nodup :=
    List.pairwise_singleton _ "name"
  rw [content, lines_eq, List.map_map]
  exact Toml.read_plain s.plainLines (isValid_of_mem_plainLines h) hkeys

/-- A new plan file holds a plan that has the name of the migration, no description and no changes. -/
theorem ofToml_content (h : isName s.name = true) :
    Plan.ofToml s.content = .ok { name := some s.name, description := none, changes := [] } := by
  rw [Plan.ofToml, Node.decodeToml, read_content h]
  rfl

theorem ofToml_content_early :
    let s : Skeleton := ⟨"add_2_users", ⟨-100000000000, 500000000, -12345⟩⟩
    s.created.localTime.rfc3339 = "-1199-02-15T10:47:35.500-03:26" ∧
      Plan.ofToml s.content = .ok { name := some "add_2_users" } := by
  intro s
  have hname : isName s.name = true := by decide
  exact ⟨by decide +kernel, ofToml_content hname⟩

end Plan.Skeleton

end SchemaEvolution
