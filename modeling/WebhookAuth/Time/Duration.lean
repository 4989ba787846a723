import WebhookAuth.Number.Numeral

/-!
# Durations

Spans of time in whole microseconds, within a thousand million days of zero. Arithmetic that leaves
this range is refused.
-/

namespace WebhookAuth

/-- Is a time there to compute with? -/
inductive Presence where
  | given
  | absent
  deriving DecidableEq, Repr

/-- What stands for a time in the text of a refusal. -/
def Presence.kind : Presence → String
  | .given => "datetime.datetime"
  | .absent => "NoneType"

/-- Why a computation with times has no answer. -/
inductive TimeError where
  /-- One of the two times to subtract has an offset and the other has none. -/
  | mixedSubtraction
  /-- One of the two times to compare has an offset and the other has none. -/
  | mixedComparison
  /-- Of two times to subtract, at least one is not there. -/
  | absentSubtraction (later earlier : Presence)
  /-- Of two times to compare, at least one is not there. -/
  | absentComparison (first second : Presence)
  /-- There is no skew to compare a span of time with. -/
  | absentSkew
  /-- A date would lie outside the years 1 to 9999. -/
  | dateOutOfRange
  /-- A duration would have this many whole days. -/
  | durationOutOfRange (days : Int)
  deriving DecidableEq, Repr

/-- The text of the refusal. A count of days beyond 32 bits is not shown. -/
def TimeError.message : TimeError → String
  | .mixedSubtraction => "can't subtract offset-naive and offset-aware datetimes"
  | .mixedComparison => "can't compare offset-naive and offset-aware datetimes"
  | .absentSubtraction later earlier =>
    s!"unsupported operand type(s) for -: '{later.kind}' and '{earlier.kind}'"
  | .absentComparison first second =>
    s!"'<=' not supported between instances of '{first.kind}' and '{second.kind}'"
  | .absentSkew =>
    "'>' not supported between instances of 'datetime.timedelta' and 'NoneType'"
  | .dateOutOfRange => "date value out of range"
  | .durationOutOfRange days =>
    if -2147483648 ≤ days ∧ days ≤ 2147483647 then
      s!"days={days}; must have magnitude <= 999999999"
    else "Python int too large to convert to C int"

/-- The microseconds of a second. -/
def secondMicros : Nat := 1000000

/-- The microseconds of a day. -/
def dayMicros : Nat := 86400000000

/-- A span of time in whole microseconds. -/
structure Duration where
  micros : Int
  lower : -86399999913600000000 ≤ micros
  upper : micros ≤ 86399999999999999999
  deriving DecidableEq, Repr

namespace Duration

/-- The span of this many microseconds. -/
def ofMicros (n : Int) : Except TimeError Duration :=
  if h : -86399999913600000000 ≤ n ∧ n ≤ 86399999999999999999 then .ok ⟨n, h.1, h.2⟩
  else .error (.durationOutOfRange (n / dayMicros))

/-- No time. -/
def zero : Duration := ⟨0, by decide, by decide⟩

instance : Inhabited Duration := ⟨zero⟩

/-- A short span of whole seconds. -/
def seconds (n : Nat) (h : n ≤ 86400000000 := by decide) : Duration :=
  ⟨n * 1000000, by omega, by omega⟩

/-- The span back. -/
def neg (d : Duration) : Except TimeError Duration := ofMicros (-d.micros)

/-- Two spans after each other. -/
def add (d e : Duration) : Except TimeError Duration := ofMicros (d.micros + e.micros)

/-- The span of a binary64 number of seconds. The whole seconds count exactly; the fraction is
multiplied out in binary64, and the sum goes to the nearest microsecond, a half to the even one. -/
def ofSeconds (x : Ratio) : Except TimeError Duration :=
  let fraction := (x.fractional.scale secondMicros).nearest
  ofMicros (fraction.shift (x.truncate * secondMicros)).roundHalfEven

/-- The span that a numeral gives in seconds, if it is one and within range. -/
def ofSecondsText? (text : String) : Option Duration := do
  let value ← Numeral.binary64? text.toList
  let seconds ← value.finite?
  (ofSeconds seconds).toOption

/-- The span in seconds as a binary64 number. -/
def toSeconds (micros : Int) : Ratio :=
  Ratio.nearest ⟨micros, secondMicros, by decide⟩

end Duration

end WebhookAuth
