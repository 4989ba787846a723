import WebhookAuth.Text.RawText
import WebhookAuth.Time.IsoReader
import WebhookAuth.Time.IsoText

/-!
# Declared send times

The value of a timestamp header, and the window around a reference time in which it must lie. A
whole number counts seconds since 1970, or milliseconds if it has thirteen digits or more; anything
else is read as ISO 8601.
-/

namespace WebhookAuth

open WebhookAuth.Text

/-- Why the value of a timestamp header is no time. -/
inductive TimestampError where
  /-- The instant lies outside the years 1 to 9999. -/
  | outOfRange
  /-- The value is neither a whole number nor ISO 8601. -/
  | unrecognized
  /-- The value is a whole number with too many digits to be read. -/
  | tooManyDigits (refusal : Numeral.TooManyDigits)
  deriving DecidableEq, Repr

/-- The text of the refusal. -/
def TimestampError.message : TimestampError → String
  | .outOfRange => "Timestamp out of range"
  | .unrecognized => "Unrecognized timestamp format"
  | .tooManyDigits refusal => refusal.message

namespace Timestamp

/-- The fewest digits of a number of milliseconds. -/
def millisecondDigits : Nat := 13

/-- The microseconds that one unit of a number with this many digits stands for. -/
def unitMicros (digits : Nat) : Nat :=
  if millisecondDigits ≤ digits then 1000 else secondMicros

/-- The instant in UTC that a whole number stands for. -/
def ofWhole (w : Numeral.Whole) : Except TimestampError DateTime :=
  match w.value with
  | .error refusal => .error (.tooManyDigits refusal)
  | .ok n =>
    (DateTime.ofInstant (n * unitMicros w.digits.length)).mapError fun _ => .outOfRange

/-- The instant in UTC of a time in ISO 8601; without an offset it is read as UTC. -/
def ofIso (text : List Char) : Except TimestampError DateTime :=
  match IsoReader.read? (text.flatMap String.utf8EncodeChar) with
  | none => .error .unrecognized
  | some t => t.assumeUtc.toUtc.mapError fun _ => .outOfRange

/-- The instant in UTC that the value of a timestamp header stands for. -/
def read (value : String) : Except TimestampError DateTime :=
  let text := strip value.toList
  match Numeral.plain? text with
  | some w => ofWhole w
  | none => ofIso text

/-- The places in a text in ISO 8601 where the date may end. -/
def separatorPlaces : List Nat := [7, 8, 10]

/-- A text in ISO 8601 with a usual separator in place of a surrogate that stands where the date may
end; of several such surrogates the first is replaced. -/
def withSeparator (text : RawText) : RawText :=
  match separatorPlaces.find? fun place => text[place]?.any CodePoint.isSurrogate with
  | some place => text.set place (.char 'T')
  | none => text

/-- The instant in UTC that the raw value of a timestamp header stands for. With a surrogate it is
no whole number, and ISO 8601 if there is no other one than the separator. -/
def readRaw (value : RawText) : Except TimestampError DateTime :=
  match value.characters with
  | .ok text => read text
  | .error _ =>
    match (withSeparator value.strip).characters with
    | .ok text => ofIso text.toList
    | .error _ => .error .unrecognized

@[simp] theorem readRaw_ofString (value : String) : readRaw (.ofString value) = read value := by
  rw [readRaw, RawText.characters_ofString]

/-- Lies the declared time in the window around the reference time? It may be off by the skew in
either direction, and no older than the greatest age if one is given; both bounds are inclusive. The
skew is only turned around for a time that is not too old for it. -/
def isWithinWindow (declared now : DateTime) (skew : Duration) (maxAge : Option Duration) :
    Except TimeError Bool := do
  let age ← now.microsSince declared
  if skew.micros < age then return false
  let ahead ← skew.neg
  if age < ahead.micros then return false
  return maxAge.all (age ≤ ·.micros)

/-- Lies the declared time in the window, when times and tolerances may not be there? Both times and
the skew have to be. -/
def isWithin (declared now : Option DateTime) (skew maxAge : Option Duration) :
    Except TimeError Bool := do
  match declared, now, skew with
  | some declared, some now, some skew => isWithinWindow declared now skew maxAge
  | declared, now, _ =>
    let _ ← DateTime.microsBetween now declared
    throw .absentSkew

end Timestamp

end WebhookAuth
