import WebhookAuth.HeaderNames
import WebhookAuth.Payload

/-!
# Deliveries

A delivery is a body with what its headers say. Header names differ at most in case; of several
fields with one name the first counts, and a blank value counts as none. The values are strings, or
raw text as it comes in.
-/

namespace WebhookAuth

section Values

variable {Value : Type}

/-- Header fields by their lowercase names, each with its first value. -/
def normalize (fields : Fields Value) : Fields Value :=
  fields.foldl (fun found field => found.setIfAbsent (Text.lower field.1) field.2) []

/-- The first value under any of the names that is not blank. -/
def pick (isBlank : Value → Bool) (fields : Fields Value) (names : List String) : Option Value :=
  names.findSome? fun name => (fields.get? name).filter fun value => !isBlank value

end Values

/-- A webhook delivery as received. -/
structure Delivery (Value : Type := String) where
  /-- The body, byte for byte. -/
  body : Bytes
  /-- The literal value of the timestamp header. -/
  timestamp : Option Value
  /-- The literal value of the signature header. -/
  signature : Option Value
  /-- The literal value of the nonce header. -/
  nonce : Option Value
  deriving DecidableEq, Repr

namespace Delivery

/-- The delivery that a body and header fields make, where blank values are told in this way. -/
def gather {Value : Type} (isBlank : Value → Bool) (names : HeaderNames) (body : Bytes)
    (fields : Fields Value) : Delivery Value :=
  let found := normalize fields
  { body
    timestamp := pick isBlank found (names.lookupOrder .timestamp)
    signature := pick isBlank found (names.lookupOrder .signature)
    nonce := pick isBlank found (names.lookupOrder .nonce) }

/-- The delivery that a body and header fields make. -/
def ofFields (names : HeaderNames) (body : Bytes) (fields : Fields) : Delivery :=
  gather Text.isBlankText names body fields

/-- The delivery that a body and raw header fields make. A name with a surrogate has one in
lowercase, too, and is none of those that are looked for. -/
def ofRawFields (names : HeaderNames) (body : Bytes) (fields : List (RawText × RawText)) :
    Delivery RawText :=
  gather RawText.isBlank names body
    (fields.filterMap fun field => (field.1.characters.toOption).map (·, field.2))

end Delivery

/-- Is any of the three headers there, if only with a blank value? -/
def hasWebhookHeaders (names : HeaderNames) (fields : Fields) : Bool :=
  let found := normalize fields
  (names.lookupOrder .timestamp ++ names.lookupOrder .signature ++ names.lookupOrder .nonce).any
    fun name => (found.get? name).isSome

end WebhookAuth
