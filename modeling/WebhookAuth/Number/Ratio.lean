/-!
# Exact fractions and their nearest binary floating-point numbers

Every finite binary64 number is a fraction, and every correctly rounded operation on such numbers is
the exact operation followed by `Ratio.nearest`. No machine floating point is used.
-/

namespace WebhookAuth

/-- A fraction with a positive denominator, not necessarily in lowest terms. -/
structure Ratio where
  num : Int
  den : Nat
  den_pos : 0 < den
  deriving DecidableEq, Repr

namespace Ratio

/-- A whole number. -/
def ofInt (n : Int) : Ratio := ⟨n, 1, Nat.one_pos⟩

instance : Inhabited Ratio := ⟨ofInt 0⟩

/-- The product with a whole number. -/
def scale (x : Ratio) (n : Int) : Ratio := ⟨x.num * n, x.den, x.den_pos⟩

/-- The sum with a whole number. -/
def shift (x : Ratio) (n : Int) : Ratio := ⟨x.num + n * x.den, x.den, x.den_pos⟩

/-- The whole part, toward zero. -/
def truncate (x : Ratio) : Int := x.num.tdiv x.den

/-- What the whole part leaves, with the sign of the number. -/
def fractional (x : Ratio) : Ratio := ⟨x.num.tmod x.den, x.den, x.den_pos⟩

/-- The nearest whole number; a half goes to the even neighbour. -/
def roundHalfEven (x : Ratio) : Int :=
  let below := x.num / x.den
  let rest := 2 * (x.num % x.den)
  if rest < x.den then below
  else if x.den < rest then below + 1
  else below + below % 2

/-- Two to a power. -/
def twoPow (n : Nat) : Nat := Nat.pow 2 n

theorem twoPow_pos (n : Nat) : 0 < twoPow n := Nat.pow_pos Nat.two_pos

/-- The product with a power of two, whose exponent may be negative. -/
def scaleTwo (x : Ratio) (exponent : Int) : Ratio :=
  if 0 ≤ exponent then ⟨x.num * twoPow exponent.toNat, x.den, x.den_pos⟩
  else ⟨x.num, x.den * twoPow (-exponent).toNat, Nat.mul_pos x.den_pos (twoPow_pos _)⟩

/-- The exponent of the greatest power of two that is at most the size of a number other than
zero. -/
def order (x : Ratio) : Int :=
  let guess : Int := (x.num.natAbs.log2 : Int) - (x.den.log2 : Int)
  let scaled := x.scaleTwo (-guess)
  if scaled.den ≤ scaled.num.natAbs then guess else guess - 1

/-- The exponent of the last place of the binary64 numbers around a number. -/
def lastPlace (x : Ratio) : Int := max (x.order - 52) (-1074)

/-- The binary64 number nearest to a number, as if its exponent had no upper bound; of two equally
near ones, that with the even last place. -/
def nearest (x : Ratio) : Ratio :=
  (ofInt (x.scaleTwo (-x.lastPlace)).roundHalfEven).scaleTwo x.lastPlace

/-- Is the number below the first power of two that binary64 does not reach? -/
def isFinite (x : Ratio) : Bool :=
  x.num.natAbs < x.den * twoPow 1024

end Ratio

end WebhookAuth
