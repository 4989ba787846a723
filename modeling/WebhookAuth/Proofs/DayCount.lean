import Mathlib.Tactic
import WebhookAuth.Time.DateTime

/-!
# Counting days

A year of the calendar has 365 days or, if it is a leap year, 366 (`Calendar.sum_monthLengths`). The
years that are passed on a day, and the days into the next, are told from the number of days by
cycles, centuries and spans of four years (`Calendar.yearsPassed_spec`), so that a date is read back
from its day number (`Calendar.Date.dayNumber_ofDayNumber`), and a reading of the clock from its
microseconds (`WallReading.micros_ofMicros`).
-/

namespace WebhookAuth

namespace Calendar

variable {year days : ℕ} {lengths : List ℕ}

/-- The days of a year. -/
def yearLength (year : ℕ) : ℕ := if isLeap year then 366 else 365

theorem isLeap_iff : isLeap year = true ↔ year % 4 = 0 ∧ (year % 100 ≠ 0 ∨ year % 400 = 0) := by
  unfold isLeap
  simp only [Bool.and_eq_true, Bool.or_eq_true, beq_iff_eq, bne_iff_ne]

theorem sum_monthLengths (year : ℕ) : (monthLengths year).sum = yearLength year := by
  unfold monthLengths yearLength
  split_ifs <;> rfl

/-! ### Years -/

section Years

-- a year by its cycle, the century in that, the span of four years in that, and its place there
variable {cycle century span place : ℕ} (hcentury : century ≤ 3) (hspan : span ≤ 24)
  (hplace : place ≤ 3)

include hcentury hspan hplace

theorem daysBeforeYear_eq :
    daysBeforeYear (400 * cycle + 100 * century + 4 * span + place + 1) =
      146097 * cycle + 36524 * century + 1461 * span + 365 * place := by
  unfold daysBeforeYear
  dsimp only
  omega

/-- The last year of a span is a leap year, but the last of a century only if it is the last of its
cycle. -/
theorem isLeap_iff_last :
    isLeap (400 * cycle + 100 * century + 4 * span + place + 1) = true ↔
      place = 3 ∧ (span ≠ 24 ∨ century = 3) := by
  rw [isLeap_iff]
  omega

end Years

/-- The days up to a day are those of the years that are passed, and less than another year. -/
theorem yearsPassed_spec (days : ℕ) :
    daysBeforeYear ((yearsPassed days).1 + 1) + (yearsPassed days).2 = days ∧
      (yearsPassed days).2 < yearLength ((yearsPassed days).1 + 1) := by
  unfold yearsPassed
  dsimp only
  set inCycle := days % 146097 with hcycle
  set century := min (inCycle / 36524) 3 with hcentury
  set inCentury := inCycle - 36524 * century with hinCentury
  set span := inCentury / 1461 with hspan
  set inSpan := inCentury % 1461 with hinSpan
  set place := min (inSpan / 365) 3 with hplace
  have hcentury_le : century ≤ 3 := min_le_right _ _
  have hplace_le : place ≤ 3 := min_le_right _ _
  have hinCycle_lt : inCycle < 146097 := Nat.mod_lt _ (by decide)
  -- only the last century of a cycle has a day more
  have hinCentury_le : inCentury ≤ 36524 ∧ (inCentury = 36524 → century = 3) := by omega
  have hspan_le : span ≤ 24 := by omega
  have hspan_last : span = 24 → inSpan = 1460 → century = 3 := by omega
  constructor
  · rw [daysBeforeYear_eq hcentury_le hspan_le hplace_le]
    omega
  · unfold yearLength
    split_ifs with hleap
    · omega
    · rw [isLeap_iff_last hcentury_le hspan_le hplace_le] at hleap
      omega

/-! ### Months -/

/-- The days into a year are those of the months that are passed, and less than another month. -/
theorem monthsPassed_spec (h : days < lengths.sum) :
    ∃ length, lengths[(monthsPassed lengths days).1]? = some length ∧
      (monthsPassed lengths days).2 < length ∧
      (lengths.take (monthsPassed lengths days).1).sum + (monthsPassed lengths days).2 = days := by
  induction lengths generalizing days with
  | nil => exact absurd h (Nat.not_lt_zero _)
  | cons length lengths ih =>
    unfold monthsPassed
    split_ifs with hlt
    · exact ⟨length, rfl, hlt, Nat.zero_add _⟩
    · rw [List.sum_cons] at h
      have hlater : days - length < lengths.sum := by omega
      obtain ⟨next, hnext, hbound, hsum⟩ := ih hlater
      refine ⟨next, by simpa using hnext, hbound, ?_⟩
      dsimp only
      rw [List.take_succ_cons, List.sum_cons]
      omega

namespace Date

/-- The day number of the date is the number of days that it was made of. -/
theorem dayNumber_ofDayNumber (days : ℕ) : (ofDayNumber days).dayNumber = days := by
  obtain ⟨hyears, hrest⟩ := yearsPassed_spec days
  rw [← sum_monthLengths] at hrest
  obtain ⟨length, -, -, hmonths⟩ := monthsPassed_spec hrest
  unfold ofDayNumber dayNumber
  dsimp only
  rw [Nat.add_sub_cancel, Nat.add_sub_cancel]
  show daysBeforeYear _ + (List.take _ _).sum + _ = days
  omega

/-- Up to the end of year 9999 there is such a date. -/
theorem isValid_ofDayNumber (h : days < daysBeforeYear 10000) :
    (ofDayNumber days).isValid = true := by
  obtain ⟨hyears, hrest⟩ := yearsPassed_spec days
  rw [← sum_monthLengths] at hrest
  obtain ⟨length, hlength, hday, -⟩ := monthsPassed_spec hrest
  have hyear : (yearsPassed days).1 + 1 ≤ 9999 := by
    unfold daysBeforeYear at hyears h
    dsimp only at hyears h
    omega
  unfold ofDayNumber isValid
  dsimp only
  rw [Nat.add_sub_cancel, hlength]
  simp only [Bool.and_eq_true, decide_eq_true_eq]
  omega

end Date

end Calendar

namespace WallReading

/-- The microseconds of the reading are those that it was made of. -/
theorem micros_ofMicros (n : ℕ) : (ofMicros n).micros = n := by
  unfold ofMicros micros
  dsimp only
  rw [Calendar.Date.dayNumber_ofDayNumber]
  unfold dayMicros secondMicros
  omega

/-- There is such a reading in the years 1 to 9999. -/
theorem isValid_ofMicros {n : ℕ} (h : n < wallLimit) : (ofMicros n).isValid = true := by
  have hdays : n / dayMicros < Calendar.daysBeforeYear 10000 :=
    (Nat.div_lt_iff_lt_mul (by decide)).2 h
  unfold ofMicros isValid
  dsimp only
  rw [Calendar.Date.isValid_ofDayNumber hdays, Bool.true_and]
  unfold dayMicros secondMicros
  simp only [Bool.and_eq_true, decide_eq_true_eq]
  omega

end WallReading

end WebhookAuth
