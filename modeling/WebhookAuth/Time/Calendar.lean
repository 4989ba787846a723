/-!
# Calendar

The Gregorian calendar from the first of January of year 1, counted in days from zero. A cycle of
400 years has 146097 days; within it come centuries, four-year spans and years.
-/

namespace WebhookAuth.Calendar

/-- Has the year a 29th of February? -/
def isLeap (year : Nat) : Bool :=
  year % 4 == 0 && (year % 100 != 0 || year % 400 == 0)

/-- The lengths of the months. -/
def monthLengths (year : Nat) : List Nat :=
  [31, if isLeap year then 29 else 28, 31, 30, 31, 30, 31, 31, 30, 31, 30, 31]

/-- The days before a year. -/
def daysBeforeYear (year : Nat) : Nat :=
  let past := year - 1
  365 * past + past / 4 - past / 100 + past / 400

/-- A day of the calendar. -/
structure Date where
  year : Nat
  month : Nat
  day : Nat
  deriving DecidableEq, Repr

/-- Is there such a day in the years 1 to 9999? -/
def Date.isValid (d : Date) : Bool :=
  1 ≤ d.year && d.year ≤ 9999 && 1 ≤ d.day && 1 ≤ d.month &&
    match (monthLengths d.year)[d.month - 1]? with
    | some length => d.day ≤ length
    | none => false

/-- The days before a date. -/
def Date.dayNumber (d : Date) : Nat :=
  daysBeforeYear d.year + ((monthLengths d.year).take (d.month - 1)).foldr (· + ·) 0 + (d.day - 1)

/-- The months passed and the days into the next, that many days into months of these lengths. -/
def monthsPassed : List Nat → Nat → Nat × Nat
  | [], days => (0, days)
  | length :: rest, days =>
    if days < length then (0, days)
    else
      let later := monthsPassed rest (days - length)
      (later.1 + 1, later.2)

/-- The years passed since the first of January of year 1, and the days into the next. -/
def yearsPassed (days : Nat) : Nat × Nat :=
  let inCycle := days % 146097
  let centuries := min (inCycle / 36524) 3
  let inCentury := inCycle - 36524 * centuries
  let spans := inCentury / 1461
  let inSpan := inCentury % 1461
  let years := min (inSpan / 365) 3
  (400 * (days / 146097) + 100 * centuries + 4 * spans + years, inSpan - 365 * years)

/-- The date that many days after the first of January of year 1. -/
def Date.ofDayNumber (days : Nat) : Date :=
  let passed := yearsPassed days
  let year := passed.1 + 1
  let months := monthsPassed (monthLengths year) passed.2
  ⟨year, months.1 + 1, months.2 + 1⟩

/-- The day of the week of a day number: 0 is Monday. -/
def weekday (dayNumber : Nat) : Nat := dayNumber % 7

/-- Has the year a 53rd week? It has if it starts on a Thursday, or is a leap year that starts on a
Wednesday. -/
def hasWeek53 (year : Nat) : Bool :=
  let first := weekday (daysBeforeYear year)
  first == 3 || (first == 2 && isLeap year)

/-- The day number of the Monday of week 1 of a year: the week with the year's first Thursday. It
may lie before the first of January of year 1. -/
def firstMonday (year : Nat) : Int :=
  let start := daysBeforeYear year
  let first := weekday start
  (start : Int) - first + (if first ≤ 3 then 0 else 7)

/-- The date of a day of a week of a year, if the year has it. -/
def Date.ofWeek? (year week day : Nat) : Option Date :=
  if 1 ≤ year ∧ year ≤ 9999 ∧ 1 ≤ week ∧ (week ≤ 52 ∨ (week = 53 ∧ hasWeek53 year)) ∧
      1 ≤ day ∧ day ≤ 7 then
    let dayNumber := firstMonday year + 7 * (week - 1) + (day - 1)
    if 0 ≤ dayNumber then some (Date.ofDayNumber dayNumber.toNat) else none
  else none

end WebhookAuth.Calendar
