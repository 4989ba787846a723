import WebhookAuth.Text.Utf8
import WebhookAuth.Time.DateTime

/-!
# Reading times in ISO 8601

A calendar date or a week date, basic or extended, then any one character, then a time of day, then
`Z` or an offset written like a time of day. A date may stand alone. Fractions beyond microseconds
are cut off. Behind the end of the text the reader sees a zero byte, and a zero byte after a
complete time closes the text.
-/

namespace WebhookAuth.IsoReader

open Calendar

/-- The byte at the front; behind the end stands a zero byte. -/
def front (text : Bytes) : UInt8 := text.headD 0

/-- Is the byte that of an ASCII character? -/
def isByte (b : UInt8) (c : Char) : Bool := b.toNat == c.toNat

/-- Is the byte an ASCII digit? -/
def isDigit (b : UInt8) : Bool := 48 ≤ b.toNat && b.toNat ≤ 57

/-- Reads exactly this many digits, which continue a number. -/
def number? : Nat → Nat → Bytes → Option (Nat × Bytes)
  | 0, n, text => some (n, text)
  | count + 1, n, text =>
    if isDigit (front text) then number? count (10 * n + ((front text).toNat - 48)) text.tail
    else none

/-- The byte at a place; behind the end stands a zero byte. -/
def byteAt (text : Bytes) (place : Nat) : UInt8 := text.getD place 0

/-- Where the week date `YYYYWww` or `YYYYWwwD` ends: digits that run on belong to the time in
pairs. -/
def basicWeekEnd (text : Bytes) : Nat :=
  let run := 7 + ((text.drop 7).takeWhile isDigit).length
  if run < 9 then run else if run % 2 = 0 then 7 else 8

/-- Where the date ends, told by its form, unless no form fits. -/
def dateEnd? (text : Bytes) : Option Nat :=
  if text.length = 7 then some 7
  else if isByte (byteAt text 4) '-' then
    if isByte (byteAt text 5) 'W' then
      if text.length < 8 then none
      else if 8 < text.length ∧ isByte (byteAt text 8) '-' then
        if text.length = 9 then none
        else if 10 < text.length ∧ isDigit (byteAt text 10) then some 8
        else some 10
      else some 8
    else some 10
  else if isByte (byteAt text 4) 'W' then some (basicWeekEnd text)
  else some 8

/-- Skips a hyphen where the date is written with hyphens. -/
def hyphen? (wanted : Bool) (text : Bytes) : Option Bytes :=
  if !wanted then some text
  else if isByte (front text) '-' then some text.tail
  else none

/-- Reads a week and its day; without a day it is Monday. -/
def week? (hyphens : Bool) (year : Nat) (dateEnd : Nat) (text : Bytes) : Option Date := do
  let (week, rest) ← number? 2 0 text
  if (if hyphens then 8 else 7) < dateEnd then
    let rest ← hyphen? hyphens rest
    let (day, _) ← number? 1 0 rest
    Date.ofWeek? year week day
  else Date.ofWeek? year week 1

/-- Reads the date at the front of the text. -/
def date? (dateEnd : Nat) (text : Bytes) : Option Date := do
  let (year, rest) ← number? 4 0 text
  let hyphens := isByte (front rest) '-'
  let rest := if hyphens then rest.tail else rest
  if isByte (front rest) 'W' then week? hyphens year dateEnd rest.tail
  else
    let (month, rest) ← number? 2 0 rest
    let rest ← hyphen? hyphens rest
    let (day, _) ← number? 2 0 rest
    return ⟨year, month, day⟩

/-- The fields of a time of day that were read, and whether the text is closed behind them. -/
structure Clock where
  hour : Nat
  minute : Nat
  second : Nat
  micro : Nat
  closed : Bool

/-- What stands behind the fields of two digits. -/
inductive Tail where
  /-- Nothing more belongs to the time of day; is the text closed? -/
  | ended (closed : Bool)
  /-- A fraction, in that many bytes of the text. -/
  | fraction (length : Nat) (text : Bytes)

/-- Reads up to `count` fields of two digits from the first `length` bytes of a text. Whether they
are parted by colons is told by the byte behind the first; a colon right before the end is passed
over. -/
def fields? : Nat → Option Bool → Nat → Bytes → Option (List Nat × Tail)
  | 0, _, length, text => some ([], .fraction length text)
  | count + 1, colons, length, text => do
    let (value, rest) ← number? 2 0 text
    let next := front rest
    let colons := colons.getD (isByte next ':')
    if length ≤ 3 then return ([value], .ended (next == 0))
    else if colons && isByte next ':' then
      let (values, last) ← fields? count (some colons) (length - 3) rest.tail
      return (value :: values, last)
    else if isByte next '.' || isByte next ',' then
      return ([value], .fraction (length - 3) rest.tail)
    else if !colons then
      let (values, last) ← fields? count (some colons) (length - 2) rest
      return (value :: values, last)
    else none

/-- Reads a time of day from the first `length` bytes of a text. -/
def clock? (length : Nat) (text : Bytes) : Option Clock := do
  let (values, last) ← fields? 3 none length text
  let (micro, closed) ← match last with
    | .ended closed => some (0, closed)
    | .fraction length text => do
      let count := min length 6
      let (n, rest) ← number? count 0 text
      some (n * Nat.pow 10 (6 - count), front (rest.dropWhile isDigit) == 0)
  return ⟨values.getD 0 0, values.getD 1 0, values.getD 2 0, micro, closed⟩

/-- Does an offset start with this byte? -/
def startsOffset (b : UInt8) : Bool := isByte b '+' || isByte b '-' || isByte b 'Z'

/-- Reads the offset at the front of a text. Less than a second is no offset. -/
def offset? (text : Bytes) : Option Offset :=
  if isByte (front text) 'Z' then
    if front text.tail == 0 then some .utc else none
  else do
    let clock ← clock? text.tail.length text.tail
    guard clock.closed
    let seconds := 3600 * clock.hour + 60 * clock.minute + clock.second
    let size : Int := if seconds = 0 then 0 else (seconds * secondMicros + clock.micro : Nat)
    Offset.ofMicros? (if isByte (front text) '-' then -size else size)

/-- Reads a time of day with the offset behind it, if there is one. -/
def time? (text : Bytes) : Option (Clock × Option Offset) := do
  guard (!text.isEmpty)
  let zone := text.dropWhile (!startsOffset ·)
  let clock ← clock? (text.length - zone.length) text
  if zone.isEmpty then
    guard clock.closed
    return (clock, none)
  else
    let offset ← offset? zone
    return (clock, some offset)

/-- How many bytes the character at the front has, told by its first byte. -/
def charLength (text : Bytes) : Nat :=
  let n := (front text).toNat
  if n < 0x80 then 1
  else if n / 16 = 0xE then 3
  else if n / 16 = 0xF then 4
  else 2

/-- Reads a time: a date alone is its midnight, and behind a separator a time of day must follow. -/
def read? (text : Bytes) : Option DateTime := do
  let dateEnd ← dateEnd? text
  let date ← date? dateEnd text
  let rest := text.drop dateEnd
  if rest.isEmpty then WallReading.toDateTime? ⟨date, 0, 0, 0, 0⟩ none
  else
    let (clock, offset) ← time? (rest.drop (charLength rest))
    WallReading.toDateTime? ⟨date, clock.hour, clock.minute, clock.second, clock.micro⟩ offset

end WebhookAuth.IsoReader
