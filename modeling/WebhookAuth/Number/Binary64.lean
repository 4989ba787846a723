import WebhookAuth.Number.Ratio

/-!
# Binary floating-point values

A binary64 value is a fraction, infinite, or not a number. The two zeros and the two infinities are
not told apart, because nothing that is done with a value here tells them apart.
-/

namespace WebhookAuth

/-- A binary64 value. -/
inductive Binary64 where
  | finite (x : Ratio)
  | infinite
  | notANumber
  deriving DecidableEq, Repr

/-- Why a value has no whole part. -/
inductive NoWholePart where
  | infinite
  | notANumber
  deriving DecidableEq, Repr

/-- The text of the refusal. -/
def NoWholePart.message : NoWholePart → String
  | .infinite => "cannot convert float infinity to integer"
  | .notANumber => "cannot convert float NaN to integer"

namespace Binary64

/-- The value nearest to a number; infinite for a number beyond the range. -/
def ofRatio (x : Ratio) : Binary64 :=
  if x.nearest.isFinite then .finite x.nearest else .infinite

/-- The whole number as a value. -/
def ofNat (n : Nat) : Binary64 := ofRatio (Ratio.ofInt n)

/-- The fraction that a finite value is. -/
def finite? : Binary64 → Option Ratio
  | finite x => some x
  | _ => none

/-- The product with a whole number other than zero. -/
def scale : Binary64 → Int → Binary64
  | finite x, n => ofRatio (x.scale n)
  | infinite, _ => infinite
  | notANumber, _ => notANumber

/-- The whole part, toward zero. -/
def truncate : Binary64 → Except NoWholePart Int
  | finite x => .ok x.truncate
  | infinite => .error .infinite
  | notANumber => .error .notANumber

end Binary64

end WebhookAuth
