import WebhookAuth.Text.Quoted

/-!
# Verdicts

What verification says of a delivery: it is verified, or it is rejected for one of a closed set of
reasons, with a detail that may be shown to the sender.
-/

namespace WebhookAuth

/-- Why a delivery is rejected. -/
inductive Reason where
  | missingHeader
  | invalidTimestampFormat
  | timestampOutOfWindow
  | signatureMismatch
  | replayDetected
  | storeUnavailable
  deriving DecidableEq, Repr

namespace Reason

/-- All reasons. -/
def all : List Reason :=
  [missingHeader, invalidTimestampFormat, timestampOutOfWindow, signatureMismatch, replayDetected,
    storeUnavailable]

/-- The name of a reason in answers and log lines. -/
def name : Reason → String
  | missingHeader => "missing_header"
  | invalidTimestampFormat => "invalid_timestamp_format"
  | timestampOutOfWindow => "timestamp_out_of_window"
  | signatureMismatch => "signature_mismatch"
  | replayDetected => "replay_detected"
  | storeUnavailable => "store_unavailable"

/-- A sentence for the sender. -/
def message : Reason → String
  | missingHeader => "Missing required header"
  | invalidTimestampFormat => "Timestamp header could not be parsed"
  | timestampOutOfWindow => "Timestamp outside the allowed window"
  | signatureMismatch => "Signature does not match"
  | replayDetected => "Nonce has already been used"
  | storeUnavailable => "Nonce store unavailable"

/-- The reason with a name. -/
def ofName? (name : String) : Option Reason :=
  all.find? (·.name == name)

/-- A reason is found by its name. -/
theorem ofName?_name (r : Reason) : ofName? r.name = some r := by
  cases r <;> decide

end Reason

/-- The text of the refusal of a name that no reason has. -/
def unknownReasonMessage (name : String) : String :=
  s!"{Text.quoted name} is not a valid FailureReason"

/-- What verification says of a delivery. -/
inductive Verdict where
  | verified
  | rejected (reason : Reason) (detail : Option String)
  deriving DecidableEq, Repr

namespace Verdict

/-- Is the delivery verified? -/
def isVerified : Verdict → Bool
  | verified => true
  | rejected _ _ => false

/-- The reason of a rejection. -/
def reason? : Verdict → Option Reason
  | verified => none
  | rejected reason _ => some reason

/-- The detail of a rejection. -/
def detail? : Verdict → Option String
  | verified => none
  | rejected _ detail => detail

/-- The sentence for the sender of a rejected delivery, with the detail unless that is empty. -/
def errorText : Verdict → Option String
  | verified => none
  | rejected reason none => some reason.message
  | rejected reason (some detail) =>
    some (if detail.isEmpty then reason.message else s!"{reason.message}: {detail}")

end Verdict

end WebhookAuth
