import WebhookAuth.Number.Binary64
import WebhookAuth.Text.Blank
import WebhookAuth.Text.Digits
import WebhookAuth.Text.Lowercase

/-!
# Numerals in text

Whole numbers and decimal fractions as people and programs write them: blank space around, a sign,
decimal digits of any script, single low lines between digits. The values that are no fractions
have names.
-/

namespace WebhookAuth.Numeral

open WebhookAuth.Text

/-- The most digits that a whole number may be written with. -/
def maxDigits : Nat := 4300

/-- The refusal of a whole number with too many digits. -/
structure TooManyDigits where
  /-- How many digits there are, leading zeros included. -/
  count : Nat
  deriving DecidableEq, Repr

/-- The text of the refusal. -/
def TooManyDigits.message (e : TooManyDigits) : String :=
  s!"Exceeds the limit ({maxDigits} digits) for integer string conversion: value has {e.count} " ++
    "digits; use sys.set_int_max_str_digits() to increase the limit"

/-- The number that decimal digits spell. -/
def valueOf (digits : List Nat) : Nat :=
  digits.foldl (fun n d => 10 * n + d) 0

/-- The sign of a numeral, and the rest. -/
def takeSign : List Char → Bool × List Char
  | '-' :: rest => (true, rest)
  | '+' :: rest => (false, rest)
  | rest => (false, rest)

/-- A whole number as written. -/
structure Whole where
  negative : Bool
  digits : List Nat
  deriving DecidableEq, Repr

/-- The number, unless it has too many digits. -/
def Whole.value (w : Whole) : Except TooManyDigits Int :=
  if maxDigits < w.digits.length then .error ⟨w.digits.length⟩
  else .ok (if w.negative then -(valueOf w.digits : Int) else valueOf w.digits)

/-- Reads an optional sign and digits, with nothing around. -/
def plain? (text : List Char) : Option Whole :=
  let signed := takeSign text
  (digits? signed.2).map (⟨signed.1, ·⟩)

/-- Blank space that is passed over around a numeral: all but the ASCII separators. -/
def isEdge (c : Char) : Bool :=
  isBlank c && !(28 ≤ c.toNat && c.toNat ≤ 31)

/-- Reads digits with single low lines between them. -/
def grouped? (text : List Char) : Option (List Nat) :=
  ((text.splitOn '_').mapM digits?).map List.flatten

/-- Reads a whole number with blank space around and low lines between digits. -/
def whole? (text : List Char) : Option Whole :=
  let signed := takeSign (trimBy isEdge text)
  (grouped? signed.2).map (⟨signed.1, ·⟩)

/-- A digit of any script as the ASCII digit of the same value; other characters stay. -/
def asciiDigit (c : Char) : Char :=
  match digitValue? c with
  | some d => Char.ofNat (48 + d)
  | none => c

/-- Takes the low lines out of a numeral that continues a character; each must stand between two
digits. -/
def ungroup? (before : Char) : List Char → Option (List Char)
  | [] => if before = '_' then none else some []
  | c :: rest =>
    if c = '_' then if before.isDigit then ungroup? c rest else none
    else if before = '_' ∧ ¬c.isDigit then none
    else (ungroup? c rest).map (c :: ·)

/-- A decimal fraction as written: its digits, with a power of ten to multiply by. -/
structure Decimal where
  negative : Bool
  digits : List Nat
  exponent : Int
  deriving DecidableEq, Repr

/-- Reads the exponent of a decimal fraction; without one it is zero. -/
def exponent? : Option (List Char) → Option Int
  | none => some 0
  | some text =>
    let signed := takeSign text
    (digits? signed.2).map fun digits =>
      if signed.1 then -(valueOf digits : Int) else valueOf digits

/-- Reads digits that may be missing. -/
def optionalDigits? (text : List Char) : Option (List Nat) :=
  text.mapM digitValue?

/-- Reads a decimal fraction in ASCII, without blank space and low lines. -/
def decimalAscii? (text : List Char) : Option Decimal := do
  let signed := takeSign text
  let (mantissa, power) := cut 'e' (signed.2.map fun c => if c = 'E' then 'e' else c)
  let (front, back) := cut '.' mantissa
  let whole ← optionalDigits? front
  let fraction ← optionalDigits? (back.getD [])
  guard (whole ≠ [] ∨ fraction ≠ [])
  let exponent ← exponent? power
  return ⟨signed.1, whole ++ fraction, exponent - fraction.length⟩

/-- Reads a decimal fraction with blank space around and low lines between digits. -/
def decimal? (text : List Char) : Option Decimal :=
  (ungroup? '\x00' ((trimBy isEdge text).map asciiDigit)).bind decimalAscii?

/-- The binary64 value nearest to a decimal fraction. Fractions far beyond the range are told by the
place of their first digit. -/
def Decimal.nearest (x : Decimal) : Binary64 :=
  let digits := x.digits.dropWhile (· == 0)
  let size : Int := valueOf digits
  let mantissa := if x.negative then -size else size
  let place := (digits.length : Int) + x.exponent
  if digits.isEmpty ∨ place < -400 then .finite (Ratio.ofInt 0)
  else if 400 < place then .infinite
  else if 0 ≤ x.exponent then
    Binary64.ofRatio (Ratio.ofInt (mantissa * Nat.pow 10 x.exponent.toNat))
  else
    Binary64.ofRatio ⟨mantissa, Nat.pow 10 (-x.exponent).toNat, Nat.pow_pos (by decide)⟩

/-- The value with a name, in any case and with a sign. -/
def named? (text : List Char) : Option Binary64 :=
  let name := (takeSign (trimBy isEdge text)).2.map lowerAscii
  if name = ['i', 'n', 'f'] ∨ name = ['i', 'n', 'f', 'i', 'n', 'i', 't', 'y'] then some .infinite
  else if name = ['n', 'a', 'n'] then some .notANumber
  else none

/-- Reads a binary64 value: a decimal fraction, or a value with a name. -/
def binary64? (text : List Char) : Option Binary64 :=
  (named? text).or ((decimal? text).map Decimal.nearest)

end WebhookAuth.Numeral
