import WebhookAuth.Time.Calendar
import WebhookAuth.Time.Duration

/-!
# Times of day on a date

A time shows what a wall clock shows, to the microsecond, in the years 1 to 9999, and may state the
clock's offset from UTC. With an offset it names an instant; without one it can only be compared
with others of its kind.
-/

namespace WebhookAuth

open Calendar

/-- A clock's offset from UTC, in microseconds east, by less than a day. -/
structure Offset where
  micros : Int
  bounded : micros.natAbs < 86400000000
  deriving DecidableEq, Repr

namespace Offset

/-- The offset of UTC itself. -/
def utc : Offset := ⟨0, by decide⟩

/-- The offset of this many microseconds, if it is less than a day. -/
def ofMicros? (n : Int) : Option Offset :=
  if h : n.natAbs < 86400000000 then some ⟨n, h⟩ else none

end Offset

/-- The microseconds from the first of January of year 1 to the end of year 9999. -/
def wallLimit : Nat := 315537897600000000

/-- The microseconds from the first of January of year 1 to that of 1970. -/
def epochWall : Nat := 62135596800000000

/-- What a wall clock shows, with its offset if that is known. -/
structure DateTime where
  /-- Microseconds on the wall clock since the first of January of year 1. -/
  wall : Nat
  offset : Option Offset
  wall_lt : wall < wallLimit
  deriving DecidableEq, Repr

namespace DateTime

/-- The time with this reading, if it lies in the years 1 to 9999. -/
def ofWall? (wall : Int) (offset : Option Offset) : Option DateTime :=
  if h : 0 ≤ wall ∧ wall.toNat < wallLimit then some ⟨wall.toNat, offset, h.2⟩ else none

/-- The time with this reading. -/
def ofWall (wall : Int) (offset : Option Offset) : Except TimeError DateTime :=
  match ofWall? wall offset with
  | some t => .ok t
  | none => .error .dateOutOfRange

/-- The time in UTC that many microseconds after the start of 1970. -/
def ofInstant (micros : Int) : Except TimeError DateTime :=
  ofWall (micros + epochWall) (some .utc)

/-- Does the time state its offset? -/
def isAware (t : DateTime) : Bool := t.offset.isSome

/-- Microseconds since the start of 1970 in UTC; a time without an offset is read as UTC. -/
def instant (t : DateTime) : Int :=
  (t.wall : Int) - (t.offset.elim 0 (·.micros)) - epochWall

/-- The time, read as UTC if it has no offset. -/
def assumeUtc (t : DateTime) : DateTime :=
  match t.offset with
  | some _ => t
  | none => { t with offset := some .utc }

/-- The same instant in UTC. -/
def toUtc (t : DateTime) : Except TimeError DateTime := ofInstant t.instant

/-- The reading of the same clock after a span of time. -/
def add (t : DateTime) (d : Duration) : Except TimeError DateTime :=
  ofWall (t.wall + d.micros) t.offset

/-- A span of time can be added to the time within the years 1 to 9999 of its clock. -/
def CanAdd (t : DateTime) (d : Duration) : Prop := ∃ u, t.add d = .ok u

theorem canAdd_iff {t : DateTime} {d : Duration} :
    t.CanAdd d ↔ 0 ≤ t.wall + d.micros ∧ t.wall + d.micros < wallLimit := by
  unfold CanAdd add ofWall ofWall?
  by_cases hrange : 0 ≤ t.wall + d.micros ∧ (t.wall + d.micros).toNat < wallLimit
  · rw [dif_pos hrange]
    exact iff_of_true ⟨_, rfl⟩ (by omega)
  · rw [dif_neg hrange]
    exact iff_of_false (by simp) (by omega)

/-- The microseconds from one time to another. -/
def microsSince (later earlier : DateTime) : Except TimeError Int :=
  if later.isAware = earlier.isAware then .ok (later.instant - earlier.instant)
  else .error .mixedSubtraction

/-- Is the first time no later than the second? -/
def notAfter (t u : DateTime) : Except TimeError Bool :=
  if t.isAware = u.isAware then .ok (t.instant ≤ u.instant) else .error .mixedComparison

/-- Is the time there? -/
def presence (t : Option DateTime) : Presence := t.elim .absent fun _ => .given

/-- The microseconds from one time to another, if both are there. -/
def microsBetween (later earlier : Option DateTime) : Except TimeError Int :=
  match later, earlier with
  | some l, some e => l.microsSince e
  | l, e => .error (.absentSubtraction (presence l) (presence e))

/-- Is the first time no later than the second, if both are there? -/
def inOrder (first second : Option DateTime) : Except TimeError Bool :=
  match first, second with
  | some t, some u => t.notAfter u
  | t, u => .error (.absentComparison (presence t) (presence u))

end DateTime

/-- What a wall clock shows, field by field. -/
structure WallReading where
  date : Date
  hour : Nat
  minute : Nat
  second : Nat
  micro : Nat
  deriving DecidableEq, Repr

namespace WallReading

/-- Is there such a reading in the years 1 to 9999? -/
def isValid (r : WallReading) : Bool :=
  r.date.isValid && r.hour < 24 && r.minute < 60 && r.second < 60 && r.micro < secondMicros

/-- Microseconds since the first of January of year 1. -/
def micros (r : WallReading) : Nat :=
  r.date.dayNumber * dayMicros +
    (3600 * r.hour + 60 * r.minute + r.second) * secondMicros + r.micro

/-- The reading that many microseconds after the first of January of year 1. -/
def ofMicros (n : Nat) : WallReading :=
  let inDay := n % dayMicros
  let seconds := inDay / secondMicros
  ⟨Date.ofDayNumber (n / dayMicros), seconds / 3600, seconds / 60 % 60, seconds % 60,
    inDay % secondMicros⟩

/-- The time with this reading, if there is one. -/
def toDateTime? (r : WallReading) (offset : Option Offset) : Option DateTime :=
  if r.isValid then DateTime.ofWall? r.micros offset else none

end WallReading

end WebhookAuth
