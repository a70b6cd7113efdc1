import SchemaEvolution.Proofs.Calendar
import SchemaEvolution.Proofs.Decimal.Order
import SchemaEvolution.Proofs.Plan.Skeleton

/-!
# New plan files in the order of their creation

A stamp has its digits in fixed places, from the year down to the second, so stamps are ordered as the
times are that they show (`LocalTime.stamp_lt`). The name of a file starts with the stamp, which lets
files sort by the time of their creation (`Plan.Skeleton.fileName_lt`).
-/

namespace SchemaEvolution

open Decimal (padded)

/-! ## Stamps -/

namespace LocalTime

/-- Whether the year takes four digits and no sign, and two digits are enough for everything else. -/
structure Short (t : LocalTime) : Prop where
  nonneg : 0 ≤ t.year
  le : t.year ≤ 9999
  afterYear_lt : ∀ n ∈ t.afterYear, n < 100

variable {t u : LocalTime}

theorem Short.toList_stamp (ht : t.Short) :
    t.stamp.toList = padded 4 t.year.natAbs ++ t.afterYear.flatMap (padded 2) := by
  have hyear : t.yearText = padded 4 t.year.natAbs := by
    unfold yearText
    rw [if_neg (Int.not_lt.mpr ht.nonneg), if_neg (Int.not_lt.mpr ht.le)]
  rw [stamp, String.toList_ofList, hyear, afterYear]

theorem Short.year_lt (ht : t.Short) : t.year.natAbs < 10 ^ 4 := by
  have hnonneg := ht.nonneg
  have hle := ht.le
  omega

theorem Short.length_stamp (ht : t.Short) : t.stamp.length = 14 := by
  rw [← String.length_toList, ht.toList_stamp, List.length_append, Decimal.length_padded (by decide) ht.year_lt,
    Decimal.length_flatMap_padded (by decide) ht.afterYear_lt]
  rfl

theorem Short.isDigit_of_mem_stamp (ht : t.Short) {c : Char} (h : c ∈ t.stamp.toList) :
    c.isDigit = true := by
  rw [ht.toList_stamp, List.mem_append, List.mem_flatMap] at h
  rcases h with h | ⟨n, -, h⟩
  · exact Decimal.isDigit_of_mem_padded h
  · exact Decimal.isDigit_of_mem_padded h

theorem Short.val_le_of_mem_stamp (ht : t.Short) : ∀ c ∈ t.stamp.toList, c.val ≤ 127 := by
  intro c hc
  exact val_le_of_isAlphanum (isAlphanum_of_isDigit (ht.isDigit_of_mem_stamp hc))

/-- Stamps are ordered as the times are that they show, the year counting first. -/
theorem stamp_lt (ht : t.Short) (hu : u.Short)
    (h : t.year < u.year ∨ t.year = u.year ∧ t.afterYear < u.afterYear) : t.stamp < u.stamp := by
  show t.stamp.toList < u.stamp.toList
  rw [ht.toList_stamp, hu.toList_stamp]
  rcases h with hyear | ⟨hyear, hrest⟩
  · -- years are numbers of four digits here, and so are ordered as these are
    have hnonneg := ht.nonneg
    refine Text.append_lt_append (Decimal.padded_lt_padded (by decide) ?_ hu.year_lt) ?_ _ _
    · omega
    · rw [Decimal.length_padded (by decide) ht.year_lt, Decimal.length_padded (by decide) hu.year_lt]
  · rw [hyear]
    apply Text.append_lt_append_left
    exact Decimal.flatMap_padded_lt (by decide) hrest rfl hu.afterYear_lt

end LocalTime

/-! ## Files -/

namespace Plan.Skeleton

variable {a b s : Skeleton}

/-- The times of the years 0 to 9999 are short, leap seconds apart. -/
theorem short_localTime (h : s.created.nanoseconds < Calendar.secondNanos)
    (hyear : 0 ≤ s.created.localTime.year ∧ s.created.localTime.year ≤ 9999) :
    s.created.localTime.Short where
  nonneg := hyear.1
  le := hyear.2
  afterYear_lt := Instant.afterYear_lt h

theorem fileName_eq_append (s : Skeleton) :
    s.fileName = s.created.localTime.stamp ++ ("_" ++ s.name ++ ".toml") := by
  unfold fileName
  rw [String.append_assoc, String.append_assoc, String.append_assoc]

/-- Of two new plans in one place, the one from an earlier second has the smaller stamp of 14 digits,
and its file comes first in the order of bytes, whatever the plans are called. -/
theorem fileName_lt (hoffset : a.created.offset = b.created.offset)
    (h : a.created.seconds < b.created.seconds)
    (ha : a.created.nanoseconds < Calendar.secondNanos)
    (hb : b.created.nanoseconds < Calendar.secondNanos)
    (ha_year : 0 ≤ a.created.localTime.year ∧ a.created.localTime.year ≤ 9999)
    (hb_year : 0 ≤ b.created.localTime.year ∧ b.created.localTime.year ≤ 9999) :
    (∀ s ∈ [a, b], s.created.localTime.stamp.length = 14 ∧
      ∀ c ∈ s.created.localTime.stamp.toList, c.isDigit = true) ∧
    a.created.localTime.stamp < b.created.localTime.stamp ∧
    Text.bytes a.fileName < Text.bytes b.fileName ∧
    a.fileName ≠ b.fileName := by
  have ha_short := short_localTime ha ha_year
  have hb_short := short_localTime hb hb_year
  have hstamp : a.created.localTime.stamp < b.created.localTime.stamp :=
    LocalTime.stamp_lt ha_short hb_short (Instant.localTime_lt hoffset h ha hb)
  have hlength : a.created.localTime.stamp.length = b.created.localTime.stamp.length := by
    rw [ha_short.length_stamp, hb_short.length_stamp]
  have hbytes : Text.bytes a.fileName < Text.bytes b.fileName := by
    rw [fileName_eq_append, fileName_eq_append]
    exact Text.bytes_append_lt hstamp hlength ha_short.val_le_of_mem_stamp
      hb_short.val_le_of_mem_stamp _ _
  refine ⟨?_, hstamp, hbytes, ?_⟩
  · intro s hs
    have hs_short : s.created.localTime.Short := by
      rcases List.mem_pair.mp hs with rfl | rfl
      · exact ha_short
      · exact hb_short
    exact ⟨hs_short.length_stamp, fun c => hs_short.isDigit_of_mem_stamp⟩
  · intro heq
    rw [heq] at hbytes
    exact absurd hbytes (List.lt_irrefl _)

theorem fileName_lt_century :
    let evening : Skeleton := ⟨"users", ⟨-2203873201, 0, -18000⟩⟩
    let night : Skeleton := ⟨"users", ⟨-2203873200, 0, -18000⟩⟩
    evening.fileName = "19000228235959_users.toml" ∧ night.fileName = "19000301000000_users.toml" ∧
      Text.bytes evening.fileName < Text.bytes night.fileName := by
  intro evening night
  have hlt := fileName_lt (a := evening) (b := night) rfl (by decide) (by decide) (by decide)
    (by decide) (by decide)
  exact ⟨by decide +kernel, by decide +kernel, hlt.2.2.1⟩

end Plan.Skeleton

end SchemaEvolution
