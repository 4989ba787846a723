import WebhookAuth.HeaderNames
import WebhookAuth.Signature
import WebhookAuth.Time.IsoText

/-!
# Signing

The header fields that a sender puts on a body. The send time is written in whole seconds since
1970, truncated toward zero from a binary64 number of seconds, or in ISO 8601.
-/

namespace WebhookAuth

/-- How a send time is written. -/
inductive TimestampStyle where
  | unixSeconds
  | iso
  deriving DecidableEq, Repr

namespace SignedHeaders

/-- A send time as text; without an offset it is read as UTC. -/
def timestampText (style : TimestampStyle) (time : DateTime) : Except TimeError String :=
  match style with
  | .unixSeconds => .ok (toString (Duration.toSeconds time.instant).truncate)
  | .iso => time.assumeUtc.toUtc.map DateTime.iso

/-- The nonce that random bytes make. -/
def nonceOfBytes (bytes : Bytes) : String :=
  String.ofList (Hex.encode bytes)

/-- The header fields for a body. -/
def sign (secret body : Bytes) (time : DateTime) (nonce : String) (names : HeaderNames)
    (style : TimestampStyle) : Except TimeError Fields := do
  let timestamp ← timestampText style time
  let message := Signature.canonicalMessage timestamp (some nonce) body
  return Fields.ofAssignments
    [(names.timestamp, timestamp), (names.nonce, nonce),
      (names.signature, Signature.encode (Signature.tag secret message))]

end SignedHeaders

end WebhookAuth
