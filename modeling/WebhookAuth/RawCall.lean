import WebhookAuth.Verifier

/-!
# Calls as they come in

A call comes in with raw text: its body may be text, and header fields are. The body is encoded
first. What is signed has to be encoded as soon as the timestamp is found in the window, and a
surrogate in it leaves the call without a verdict. Everywhere else a surrogate is a code point like
others: a name with one is none that is looked for, a timestamp with one is hardly a time, and a
signature with one gives no tag.
-/

namespace WebhookAuth.Verifier

/-- A call with raw text. -/
structure RawCall where
  caller : Caller
  body : Payload RawText
  fields : List (RawText × RawText)
  /-- The reference time. -/
  now : DateTime

/-- A call without surrogates as it comes in. -/
def Call.raw (call : Call) : RawCall where
  caller := call.caller
  body := .raw call.body
  fields := call.fields.map fun field => (.ofString field.1, .ofString field.2)
  now := call.now

/-- The texts of a delivery that are signed, if they can be encoded: its timestamp and the nonce
that counts. -/
def signedTexts (config : Config) (d : Delivery RawText) (timestamp : RawText) :
    Except Unencodable (String × Option String) := do
  let timestamp ← timestamp.characters
  match nonceOf config d with
  | none => return (timestamp, none)
  | some nonce => return (timestamp, some (← nonce.characters))

/-- What follows for a raw delivery whose timestamp is in the window. A signature with a surrogate
is the text of no tag. -/
def planRawSigned (config : Config) (d : Delivery RawText) (timestamp signature : RawText)
    (now : DateTime) : Except Fault Plan :=
  match signedTexts config d timestamp with
  | .error e => .error (.unencodable e)
  | .ok (timestamp, nonce) =>
    match signature.characters with
    | .error _ => .ok (.reject .signatureMismatch (some "undecodable signature"))
    | .ok signature =>
      planSigned config ⟨d.body, some timestamp, some signature, nonce⟩ timestamp signature now

/-- What the checks that need no store decide about a raw delivery at a reference time. -/
def planRaw (config : Config) (d : Delivery RawText) (now : DateTime) : Except Fault Plan :=
  planHeaders config d fun timestamp signature =>
    planWindow config now (Timestamp.readRaw timestamp)
      (planRawSigned config d timestamp signature now)

/-- Verifies a delivery as it comes in over a kind of store. -/
def receiveOver {Store : Type} (reserve : Reserver Store) (config : Config) (store : Store)
    (call : RawCall) : OutcomeOver Store :=
  match call.body.encode with
  | .error e => ⟨.error (.unencodable e), store, [], []⟩
  | .ok body =>
    let d := Delivery.ofRawFields config.names body call.fields
    carryOutWith (LogEntry.ofRejection · d.nonce) reserve store call.caller call.now
      (planRaw config d call.now)

/-- Verifies a delivery as it comes in. -/
def receive (config : Config) (store : NonceStore) (call : RawCall) : Outcome :=
  receiveOver NonceStore.reserve config store call

end WebhookAuth.Verifier
