import WebhookAuth.Encoding.Hex
import WebhookAuth.Time.DateTime

/-!
# Writing times in ISO 8601

The extended form with a `T`: a fraction of six digits unless the second is whole, and the offset as
far as it is not zero, to the minute at least.
-/

namespace WebhookAuth

/-- A number in a fixed count of decimal digits. -/
def fixedDigits : Nat → Nat → List Char
  | 0, _ => []
  | count + 1, n => fixedDigits count (n / 10) ++ [Char.ofNat (48 + n % 10)]

/-- A fraction of a second in microseconds, after a point; nothing for a whole second. -/
def fractionText (micro : Nat) : List Char :=
  if micro = 0 then [] else '.' :: fixedDigits 6 micro

/-- An offset, with seconds and a fraction only where it has them. -/
def Offset.isoText (o : Offset) : List Char :=
  let size := o.micros.natAbs
  let seconds := size / secondMicros
  let micro := size % secondMicros
  let sign := if o.micros < 0 then '-' else '+'
  let minutes := fixedDigits 2 (seconds / 3600) ++ ':' :: fixedDigits 2 (seconds / 60 % 60)
  let rest :=
    if seconds % 60 = 0 ∧ micro = 0 then []
    else ':' :: fixedDigits 2 (seconds % 60) ++ fractionText micro
  sign :: (minutes ++ rest)

/-- A wall clock's reading. -/
def WallReading.isoText (r : WallReading) : List Char :=
  fixedDigits 4 r.date.year ++ '-' :: fixedDigits 2 r.date.month ++ '-' ::
    fixedDigits 2 r.date.day ++ 'T' :: fixedDigits 2 r.hour ++ ':' :: fixedDigits 2 r.minute ++
    ':' :: fixedDigits 2 r.second ++ fractionText r.micro

/-- A time, with its offset if it has one. -/
def DateTime.isoText (t : DateTime) : List Char :=
  (WallReading.ofMicros t.wall).isoText ++ t.offset.elim [] Offset.isoText

/-- A time as text. -/
def DateTime.iso (t : DateTime) : String := String.ofList t.isoText

end WebhookAuth
