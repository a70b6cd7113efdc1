import Mathlib.Algebra.Ring.Nat
import SchemaEvolution.Calendar

/-!
# The calendar runs forward

The years of the calendar follow each other without a gap: the first day of each comes as many days
after the first day of the year before as that year has (`Calendar.firstDay_add_one`), and a day is
given the one year in which it lies (`Calendar.yearOfDay_spec`). So the clocks of a place show more at a
later time, when the year is read before the month and so on down to the second
(`Instant.localTime_lt`).
-/

namespace SchemaEvolution

namespace Calendar

/-! ## Years -/

/-- The number of days of a year. -/
def yearLength (year : Int) : Int :=
  if isLeapYear year then 366 else 365

/-- The first day of a year, counted from that of the year 1. -/
def firstDay (year : Int) : Int :=
  365 * (year - 1) + (year - 1) / 4 - (year - 1) / 100 + (year - 1) / 400

theorem isLeapYear_eq_true_iff (year : Int) :
    isLeapYear year = true ↔ year % 4 = 0 ∧ (year % 100 ≠ 0 ∨ year % 400 = 0) := by
  unfold isLeapYear
  simp

theorem firstDay_add_one (year : Int) : firstDay (year + 1) = firstDay year + yearLength year := by
  unfold firstDay yearLength
  split
  · next h =>
    rw [isLeapYear_eq_true_iff] at h
    omega
  · next h =>
    rw [isLeapYear_eq_true_iff] at h
    omega

theorem firstDay_mono {year year' : Int} (h : year ≤ year') : firstDay year ≤ firstDay year' := by
  unfold firstDay
  omega

/-! ## The year of a day -/

section Parts

variable {era : Int} {century four year : Nat}

theorem firstDay_of_parts (hcentury : century ≤ 3) (hfour : four ≤ 24) (hyear : year ≤ 3) :
    firstDay (era * 400 + century * 100 + four * 4 + year + 1) =
      era * 146097 + century * 36524 + four * 1461 + year * 365 := by
  unfold firstDay
  omega

theorem isLeapYear_of_parts (hcentury : century ≤ 3) (hfour : four ≤ 24) (hyear : year ≤ 3) :
    isLeapYear (era * 400 + century * 100 + four * 4 + year + 1) = true ↔
      year = 3 ∧ (four ≠ 24 ∨ century = 3) := by
  rw [isLeapYear_eq_true_iff]
  omega

end Parts

/-- A day lies in the year that is given for it. -/
theorem yearOfDay_spec (day : Int) :
    day = firstDay (yearOfDay day).1 + (yearOfDay day).2 ∧
      (yearOfDay day).2 < yearLength (yearOfDay day).1 := by
  unfold yearOfDay
  have hday : day = day / 146097 * 146097 + (day % 146097).toNat := by omega
  have hera : (day % 146097).toNat < 146097 := by omega
  -- the day is cut into an era, a century of it, four years of that, and a year of these
  generalize day / 146097 = era at *
  generalize (day % 146097).toNat = inEra at *
  obtain ⟨century, hcentury⟩ : ∃ n, n = min 3 (inEra / 36524) := ⟨_, rfl⟩
  obtain ⟨inCentury, hinCentury⟩ : ∃ n, n = inEra - century * 36524 := ⟨_, rfl⟩
  obtain ⟨four, hfour⟩ : ∃ n, n = inCentury / 1461 := ⟨_, rfl⟩
  obtain ⟨inFour, hinFour⟩ : ∃ n, n = inCentury % 1461 := ⟨_, rfl⟩
  obtain ⟨year, hyear⟩ : ∃ n, n = min 3 (inFour / 365) := ⟨_, rfl⟩
  have hcast : (inCentury : Int) / 1461 = (four : Int) := by omega
  simp only [← hcentury, ← hinCentury, ← hinFour, ← hyear, hcast]
  -- an era is a day longer than four centuries, and a century a day shorter than 25 times four years
  have hinCentury_le : inCentury < 36524 ∨ century = 3 ∧ inCentury = 36524 := by omega
  have hfour_le : four ≤ 24 := by omega
  have hinFour_le : inFour < 1460 ∨ inFour = 1460 ∧ (four ≠ 24 ∨ century = 3) := by omega
  have hinYear : inFour - year * 365 < 365 ∨
      inFour - year * 365 = 365 ∧ year = 3 ∧ (four ≠ 24 ∨ century = 3) := by
    omega
  constructor
  · rw [firstDay_of_parts (by omega) hfour_le (by omega)]
    omega
  · unfold yearLength
    rcases hinYear with hshort | ⟨hlong, hleap⟩
    · split <;> omega
    · rw [if_pos ((isLeapYear_of_parts (by omega) hfour_le (by omega)).mpr hleap)]
      omega

/-- A later day lies in a later year, or later in the same year. -/
theorem yearOfDay_lt {day day' : Int} (h : day < day') :
    (yearOfDay day).1 < (yearOfDay day').1 ∨
      (yearOfDay day).1 = (yearOfDay day').1 ∧ (yearOfDay day).2 < (yearOfDay day').2 := by
  obtain ⟨hday, -⟩ := yearOfDay_spec day
  obtain ⟨hday', hlength⟩ := yearOfDay_spec day'
  rcases Int.lt_trichotomy (yearOfDay day).1 (yearOfDay day').1 with hyear | hyear | hyear
  · exact .inl hyear
  · refine .inr ⟨hyear, ?_⟩
    rw [hyear] at hday
    omega
  · -- the later day would lie before the year of the other one
    have hnext := firstDay_mono (Int.add_one_le_iff.mpr hyear)
    rw [firstDay_add_one] at hnext
    omega

/-! ## Months -/

theorem sum_daysInMonth (year : Int) :
    ((months.map (daysInMonth year)).sum : Int) = yearLength year := by
  unfold months daysInMonth yearLength
  cases isLeapYear year <;> rfl

theorem daysInMonth_le (year : Int) (month : Nat) : daysInMonth year month ≤ 31 := by
  unfold daysInMonth
  split
  · split <;> omega
  · split <;> omega

section Months

variable {year : Int} {ms : List Nat} {day day' : Nat}

theorem monthOfDay_mem (h : day < (ms.map (daysInMonth year)).sum) :
    (monthOfDay year ms day).1 ∈ ms ∧ (monthOfDay year ms day).2 ≤ 31 := by
  induction ms generalizing day with
  | nil => exact absurd h (Nat.not_lt_zero day)
  | cons month ms ih =>
    rw [List.map_cons, List.sum_cons] at h
    unfold monthOfDay
    by_cases hday : day < daysInMonth year month
    · rw [if_pos hday]
      have hlength := daysInMonth_le year month
      exact ⟨List.mem_cons_self, by show day + 1 ≤ 31; omega⟩
    · rw [if_neg hday]
      have hrest : day - daysInMonth year month < (ms.map (daysInMonth year)).sum := by omega
      obtain ⟨hmem, hle⟩ := ih hrest
      exact ⟨List.mem_cons_of_mem month hmem, hle⟩

/-- A later day of a year lies in a later month, or later in the same month. -/
theorem monthOfDay_lt (hms : ms.Pairwise (· < ·)) (h : day < day')
    (hday' : day' < (ms.map (daysInMonth year)).sum) :
    (monthOfDay year ms day).1 < (monthOfDay year ms day').1 ∨
      (monthOfDay year ms day).1 = (monthOfDay year ms day').1 ∧
        (monthOfDay year ms day).2 < (monthOfDay year ms day').2 := by
  induction ms generalizing day day' with
  | nil => exact absurd hday' (Nat.not_lt_zero day')
  | cons month ms ih =>
    rw [List.map_cons, List.sum_cons] at hday'
    obtain ⟨hmonth, hms⟩ := List.pairwise_cons.mp hms
    unfold monthOfDay
    by_cases hlater : day' < daysInMonth year month
    · rw [if_pos hlater, if_pos (Nat.lt_trans h hlater)]
      exact .inr ⟨rfl, Nat.add_lt_add_right h 1⟩
    · rw [if_neg hlater]
      by_cases hday : day < daysInMonth year month
      · rw [if_pos hday]
        exact .inl (hmonth _ (monthOfDay_mem (by omega)).1)
      · rw [if_neg hday]
        exact ih hms (by omega) (by omega)

end Months

end Calendar

/-! ## Clocks -/

namespace LocalTime

/-- What calendar and clock show besides the year. -/
def afterYear (t : LocalTime) : List Nat :=
  [t.month, t.day, t.hour, t.minute, t.second]

end LocalTime

namespace Instant

open Calendar

/-- The day in the place, counted from the first day of the year 1. -/
def dayNumber (t : Instant) : Int :=
  (t.seconds + t.offset) / daySeconds + epochDay

/-- The seconds of the day in the place. -/
def secondOfDay (t : Instant) : Nat :=
  ((t.seconds + t.offset) % daySeconds).toNat

/-- The number of days in the year of the day before it. -/
def dayOfYear (t : Instant) : Nat :=
  (yearOfDay t.dayNumber).2

variable {a b t : Instant}

theorem localTime_eq (t : Instant) :
    t.localTime =
      { year := (yearOfDay t.dayNumber).1
        month := (monthOfDay (yearOfDay t.dayNumber).1 months t.dayOfYear).1
        day := (monthOfDay (yearOfDay t.dayNumber).1 months t.dayOfYear).2
        hour := t.secondOfDay / 3600
        minute := t.secondOfDay / 60 % 60
        second := t.secondOfDay % 60 + t.nanoseconds / secondNanos
        nanosecond := t.nanoseconds % secondNanos
        offset := t.offset } := by
  unfold localTime dayOfYear secondOfDay dayNumber
  simp only

theorem year_localTime (t : Instant) : t.localTime.year = (yearOfDay t.dayNumber).1 := by
  rw [localTime_eq]

theorem afterYear_localTime (h : t.nanoseconds < secondNanos) :
    t.localTime.afterYear =
      [(monthOfDay t.localTime.year months t.dayOfYear).1,
       (monthOfDay t.localTime.year months t.dayOfYear).2,
       t.secondOfDay / 3600, t.secondOfDay / 60 % 60, t.secondOfDay % 60] := by
  have hleap : t.nanoseconds / secondNanos = 0 := Nat.div_eq_of_lt h
  simp only [localTime_eq, LocalTime.afterYear, hleap, Nat.add_zero]

theorem secondOfDay_lt (t : Instant) : t.secondOfDay < 86400 := by
  unfold secondOfDay daySeconds
  omega

theorem dayOfYear_lt (t : Instant) :
    t.dayOfYear < (months.map (daysInMonth t.localTime.year)).sum := by
  have hlength := (yearOfDay_spec t.dayNumber).2
  rw [← sum_daysInMonth, ← year_localTime] at hlength
  exact Int.ofNat_lt.mp hlength

/-- Two digits are enough for what calendar and clock show besides the year. -/
theorem afterYear_lt (h : t.nanoseconds < secondNanos) :
    ∀ n ∈ t.localTime.afterYear, n < 100 := by
  obtain ⟨hmem, hday⟩ := monthOfDay_mem t.dayOfYear_lt
  have hmonths : ∀ month ∈ months, month < 13 := by decide
  have hmonth := hmonths _ hmem
  have hsecond := t.secondOfDay_lt
  rw [afterYear_localTime h]
  intro n hn
  simp only [List.mem_cons, List.not_mem_nil, or_false] at hn
  omega

/-- At a later time calendar and clock of a place show more, the year counting first. -/
theorem localTime_lt (hoffset : a.offset = b.offset) (h : a.seconds < b.seconds)
    (ha : a.nanoseconds < secondNanos) (hb : b.nanoseconds < secondNanos) :
    a.localTime.year < b.localTime.year ∨
      a.localTime.year = b.localTime.year ∧ a.localTime.afterYear < b.localTime.afterYear := by
  rw [afterYear_localTime ha, afterYear_localTime hb]
  simp only [List.cons_lt_cons_iff]
  have hday : a.dayNumber < b.dayNumber ∨
      a.dayNumber = b.dayNumber ∧ a.secondOfDay < b.secondOfDay := by
    unfold dayNumber secondOfDay daySeconds
    omega
  rcases hday with hday | ⟨hday, hsecond⟩
  · rcases yearOfDay_lt hday with hyear | ⟨hyear, hinYear⟩
    · rw [← year_localTime, ← year_localTime] at hyear
      exact .inl hyear
    · rw [← year_localTime, ← year_localTime] at hyear
      have hmonth := monthOfDay_lt (by decide) hinYear b.dayOfYear_lt
      rw [hyear]
      exact .inr ⟨rfl, hmonth.imp_right fun h => ⟨h.1, .inl h.2⟩⟩
  · -- on one day the clock alone decides
    have hyear : a.localTime.year = b.localTime.year := by
      rw [year_localTime, hday, year_localTime]
    have hinYear : a.dayOfYear = b.dayOfYear := by
      rw [dayOfYear, hday, dayOfYear]
    rw [hyear, hinYear]
    refine .inr ⟨rfl, .inr ⟨rfl, .inr ⟨rfl, ?_⟩⟩⟩
    omega

end Instant

end SchemaEvolution
