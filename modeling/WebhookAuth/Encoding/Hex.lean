/-!
# Hexadecimal digits

Bytes as two hexadecimal digits each. Writing uses lowercase digits; reading takes either case.
-/

namespace WebhookAuth

/-- A sequence of bytes. -/
abbrev Bytes := List UInt8

namespace Hex

/-- The lowercase hexadecimal digit of a value below 16. -/
def digit (n : Nat) : Char :=
  if n < 10 then Char.ofNat (48 + n) else Char.ofNat (87 + n)

/-- The value of an ASCII hexadecimal digit in either case. -/
def value? (c : Char) : Option Nat :=
  if '0' ≤ c ∧ c ≤ '9' then some (c.toNat - 48)
  else if 'a' ≤ c ∧ c ≤ 'f' then some (c.toNat - 87)
  else if 'A' ≤ c ∧ c ≤ 'F' then some (c.toNat - 55)
  else none

/-- A number in a fixed count of hexadecimal digits. -/
def fixed : Nat → Nat → List Char
  | 0, _ => []
  | count + 1, n => fixed count (n / 16) ++ [digit (n % 16)]

/-- Two lowercase digits for every byte. -/
def encode (bytes : Bytes) : List Char :=
  bytes.flatMap fun b => [digit (b.toNat / 16), digit (b.toNat % 16)]

/-- The bytes of a text of digit pairs. -/
def decode? : List Char → Option Bytes
  | [] => some []
  | [_] => none
  | high :: low :: rest => do
    let h ← value? high
    let l ← value? low
    let bytes ← decode? rest
    return UInt8.ofNat (16 * h + l) :: bytes

/-- A value below 16 is read back from its digit. -/
theorem value?_digit : ∀ n : Fin 16, value? (digit n) = some n.val := by decide

/-- Reading undoes writing. -/
theorem decode?_encode (bytes : Bytes) : decode? (encode bytes) = some bytes := by
  induction bytes with
  | nil => rfl
  | cons b rest ih =>
    have hb : b.toNat < 256 := b.toNat_lt
    have hh := value?_digit ⟨b.toNat / 16, by omega⟩
    have hl := value?_digit ⟨b.toNat % 16, by omega⟩
    have hs : 16 * (b.toNat / 16) + b.toNat % 16 = b.toNat := by omega
    simp only [encode, List.flatMap_cons, List.cons_append, List.nil_append, decode?] at ih ⊢
    simp only at hh hl
    rw [hh, hl, ih]
    simp only [bind, Option.bind, pure, hs, UInt8.ofNat_toNat]

end Hex

end WebhookAuth
