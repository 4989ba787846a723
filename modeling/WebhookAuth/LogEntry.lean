import WebhookAuth.Text.RawText
import WebhookAuth.Verdict

/-!
# Log entries

What is logged, as data, and the one line that each entry is written as. Nonces come from outside
and are quoted, so that no line can be forged.
-/

namespace WebhookAuth

/-- What is worth a log line. -/
inductive LogEntry where
  /-- A delivery was rejected. -/
  | rejected (reason : Reason) (nonce : Option String)
  /-- A delivery was rejected whose nonce is no string of characters. -/
  | rejectedRaw (reason : Reason) (nonce : RawText)
  /-- A delivery was verified and its nonce reserved. -/
  | accepted (nonce : String)
  /-- A remote store did not answer a reservation. -/
  | storeUnavailable
  /-- A remote store was chosen for the value of a variable. -/
  | remoteChosen (source : String)
  /-- The local store was chosen. -/
  | localChosen
  deriving DecidableEq, Repr

namespace LogEntry

/-- How important the entry is. -/
def level : LogEntry → String
  | rejected .. | rejectedRaw .. => "WARNING"
  | accepted _ => "DEBUG"
  | storeUnavailable => "WARNING"
  | remoteChosen _ => "INFO"
  | localChosen => "INFO"

/-- Who writes the entry. -/
def channel : LogEntry → String
  | rejected .. | rejectedRaw .. => "swish_webhook_verifier.verifier"
  | accepted _ => "swish_webhook_verifier.verifier"
  | storeUnavailable => "swish_webhook_verifier.stores.redis_store"
  | remoteChosen _ => "swish_webhook_verifier.stores"
  | localChosen => "swish_webhook_verifier.stores"

/-- What the entry says. -/
def message : LogEntry → String
  | rejected reason nonce =>
    s!"Webhook verification failed: reason={reason.name} nonce={Text.quotedOption nonce}"
  | rejectedRaw reason nonce =>
    s!"Webhook verification failed: reason={reason.name} nonce={nonce.quoted}"
  | accepted nonce => s!"Webhook accepted: nonce={Text.quoted nonce}"
  | storeUnavailable => "Redis unavailable for nonce reservation"
  | remoteChosen source => s!"Using Redis nonce store from {source}"
  | localChosen => "No Redis configured, using in-memory nonce store"

/-- The entry for a rejected delivery with this nonce header. -/
def ofRejection (reason : Reason) : Option RawText → LogEntry
  | none => rejected reason none
  | some nonce =>
    match nonce.characters with
    | .ok text => rejected reason (some text)
    | .error _ => rejectedRaw reason nonce

/-- The line of the entry. -/
def line (e : LogEntry) : String :=
  s!"{e.level} {e.channel} {e.message}"

@[simp] theorem ofRejection_map_ofString (reason : Reason) (nonce : Option String) :
    ofRejection reason (nonce.map .ofString) = rejected reason nonce := by
  cases nonce with
  | none => rfl
  | some text => simp [ofRejection]

end LogEntry

end WebhookAuth
