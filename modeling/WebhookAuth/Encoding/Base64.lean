import WebhookAuth.Encoding.Hex

/-!
# Base64

Bytes in the standard Base64 alphabet. Writing pads every text to whole groups of four. Reading
takes the standard alphabet alone and wants the padding complete and at the end; unused low bits of
the last digit are not looked at, and whole groups may be followed by any padding.
-/

namespace WebhookAuth.Base64

/-- The digit of a value below 64. -/
def digit (n : Nat) : Char :=
  if n < 26 then Char.ofNat (65 + n)
  else if n < 52 then Char.ofNat (71 + n)
  else if n < 62 then Char.ofNat (n - 4)
  else if n = 62 then '+' else '/'

/-- The value of a digit. -/
def value? (c : Char) : Option Nat :=
  if 'A' ≤ c ∧ c ≤ 'Z' then some (c.toNat - 65)
  else if 'a' ≤ c ∧ c ≤ 'z' then some (c.toNat - 71)
  else if '0' ≤ c ∧ c ≤ '9' then some (c.toNat + 4)
  else if c = '+' then some 62
  else if c = '/' then some 63
  else none

/-- Is the character in the alphabet? -/
def isDigit (c : Char) : Bool :=
  (value? c).isSome

/-- Groups of four digits; two or one padding characters complete the last. -/
def encode : Bytes → List Char
  | [] => []
  | [a] => [digit (a.toNat / 4), digit (16 * (a.toNat % 4)), '=', '=']
  | [a, b] =>
    [digit (a.toNat / 4), digit (16 * (a.toNat % 4) + b.toNat / 16), digit (4 * (b.toNat % 16)),
      '=']
  | a :: b :: c :: rest =>
    digit (a.toNat / 4) :: digit (16 * (a.toNat % 4) + b.toNat / 16) ::
      digit (4 * (b.toNat % 16) + c.toNat / 64) :: digit (c.toNat % 64) :: encode rest

/-- The bytes of six-bit values; the last group may have two or three. -/
def ofSextets : List Nat → Bytes
  | a :: b :: c :: d :: rest =>
    UInt8.ofNat (4 * a + b / 16) :: UInt8.ofNat (16 * (b % 16) + c / 4) ::
      UInt8.ofNat (64 * (c % 4) + d) :: ofSextets rest
  | [a, b, c] => [UInt8.ofNat (4 * a + b / 16), UInt8.ofNat (16 * (b % 16) + c / 4)]
  | [a, b] => [UInt8.ofNat (4 * a + b / 16)]
  | _ => []

/-- May this many padding characters follow this many digits? A group of two digits wants two, one
of three wants one; after whole groups any padding is passed over. -/
def paddingFits (digits padding : Nat) : Bool :=
  match digits % 4 with
  | 0 => digits != 0 || padding == 0
  | 2 => padding == 2
  | 3 => padding == 1
  | _ => false

/-- The bytes of a text of digits and padding. -/
def decode? (text : List Char) : Option Bytes :=
  let digits := text.takeWhile isDigit
  let padding := text.dropWhile isDigit
  if padding.all (· == '=') && paddingFits digits.length padding.length then
    (digits.mapM value?).map ofSextets
  else none

/-- A value below 64 is read back from its digit. -/
theorem value?_digit : ∀ n : Fin 64, value? (digit n) = some n.val := by decide

end WebhookAuth.Base64
