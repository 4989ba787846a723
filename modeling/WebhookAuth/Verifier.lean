import WebhookAuth.Config
import WebhookAuth.Delivery
import WebhookAuth.Signature
import WebhookAuth.Store.NonceStore
import WebhookAuth.Timestamp

/-!
# Verification

A delivery is checked in order: its headers, its timestamp and window, its signature, and last its
nonce. All but the last need no store: `plan` settles them, and only a plan to reserve reaches the
store, so that nothing unauthenticated does. `verifyOver` carries a plan out over any kind of store
that can reserve nonces, `verify` over a local or a remote one, and `run` verifies calls one after
another over one store.
-/

namespace WebhookAuth

/-- Why a call of the verifier has no verdict. -/
inductive Fault where
  /-- The timestamp is a whole number with too many digits to be read. -/
  | tooManyDigits (refusal : Numeral.TooManyDigits)
  /-- A time could not be computed. -/
  | time (e : TimeError)
  /-- The store failed in another way than being unavailable. -/
  | store (e : StoreError)
  /-- A text that is signed cannot be encoded. -/
  | unencodable (e : Unencodable)
  deriving DecidableEq, Repr

/-- The text of the fault. -/
def Fault.message : Fault → String
  | .tooManyDigits refusal => refusal.message
  | .time e => e.message
  | .store e => e.message
  | .unencodable e => e.message

/-- What the checks that need no store decide. -/
inductive Plan where
  /-- The delivery is rejected. -/
  | reject (reason : Reason) (detail : Option String)
  /-- The delivery is verified, and there is no nonce to reserve. -/
  | accept
  /-- The delivery is authentic; its nonce decides. -/
  | reserve (nonce : String) (expires : DateTime)
  deriving DecidableEq, Repr

namespace Verifier

section Headers

variable {Value : Type}

/-- The nonce that counts under the policy, if any. -/
def nonceOf (config : Config) (d : Delivery Value) : Option Value :=
  if config.policy = .disabled then none else d.nonce

/-- The rejection of a delivery without the header of this name. -/
def rejectMissing (name : String) : Except Fault Plan :=
  .ok (.reject .missingHeader (some name))

/-- Checks that the headers of a delivery are there; its timestamp and its signature tell what
follows. -/
def planHeaders (config : Config) (d : Delivery Value)
    (next : Value → Value → Except Fault Plan) : Except Fault Plan :=
  match d.timestamp with
  | none => rejectMissing config.names.timestamp
  | some timestamp =>
    match d.signature with
    | none => rejectMissing config.names.signature
    | some signature =>
      if d.nonce.isNone ∧ config.policy = .required then rejectMissing config.names.nonce
      else next timestamp signature

/-- Checks the declared time as it is read from a timestamp; `next` follows if it is in the
window. -/
def planWindow (config : Config) (now : DateTime) (declared : Except TimestampError DateTime)
    (next : Except Fault Plan) : Except Fault Plan :=
  match declared with
  | .error (.tooManyDigits refusal) => .error (.tooManyDigits refusal)
  | .error _ => .ok (.reject .invalidTimestampFormat none)
  | .ok declared =>
    match Timestamp.isWithinWindow declared now config.skew config.maxAge with
    | .error e => .error (.time e)
    | .ok false => .ok (.reject .timestampOutOfWindow none)
    | .ok true => next

end Headers

/-- The bytes that the signature of a delivery must be for. -/
def signedMessage (config : Config) (timestamp : String) (d : Delivery) : Bytes :=
  Signature.canonicalMessage timestamp (nonceOf config d) d.body

/-- When a nonce that is reserved at a time may be used again. -/
def expiry (config : Config) (now : DateTime) : Except TimeError DateTime :=
  config.nonceLifetime.bind now.add

/-- What follows for an authentic delivery. -/
def planReservation (config : Config) (d : Delivery) (now : DateTime) : Except Fault Plan :=
  match nonceOf config d with
  | none => .ok .accept
  | some nonce =>
    match expiry config now with
    | .error e => .error (.time e)
    | .ok expires => .ok (.reserve nonce expires)

/-- What follows for a delivery whose timestamp is in the window. -/
def planSigned (config : Config) (d : Delivery) (timestamp signature : String) (now : DateTime) :
    Except Fault Plan :=
  match Signature.isValid config.secret (signedMessage config timestamp d) signature with
  | .error _ => .ok (.reject .signatureMismatch (some "undecodable signature"))
  | .ok false => .ok (.reject .signatureMismatch none)
  | .ok true => planReservation config d now

/-- What follows for a delivery with a timestamp and a signature. -/
def planDated (config : Config) (d : Delivery) (timestamp signature : String) (now : DateTime) :
    Except Fault Plan :=
  planWindow config now (Timestamp.read timestamp) (planSigned config d timestamp signature now)

/-- What the checks that need no store decide about a delivery at a reference time. -/
def plan (config : Config) (d : Delivery) (now : DateTime) : Except Fault Plan :=
  planHeaders config d fun timestamp signature => planDated config d timestamp signature now

/-- What came of a call of the verifier over a kind of store. -/
structure OutcomeOver (Store : Type) where
  result : Except Fault Verdict
  store : Store
  /-- The commands that reached a remote server, in order. -/
  commands : List SetCommand
  log : List LogEntry

/-- What came of a call of the verifier. -/
abbrev Outcome := OutcomeOver NonceStore

/-- How a kind of store reserves a nonce for a caller until a time, at a reference time. -/
abbrev Reserver (Store : Type) :=
  Store → Caller → String → DateTime → DateTime → Reservation Store

section Stores

variable {Store : Type}

/-- The outcome of a rejection. -/
def rejected (reason : Reason) (detail nonce : Option String) (store : Store)
    (commands : List SetCommand) (log : List LogEntry) : OutcomeOver Store :=
  ⟨.ok (.rejected reason detail), store, commands, log ++ [.rejected reason nonce]⟩

/-- The outcome that a reservation of a nonce decides. -/
def ofReservation (nonce : String) (r : Reservation Store) : OutcomeOver Store :=
  match r.answer with
  | .error .unavailable => rejected .storeUnavailable none (some nonce) r.store r.commands r.log
  | .error e => ⟨.error (.store e), r.store, r.commands, r.log⟩
  | .ok false => rejected .replayDetected none (some nonce) r.store r.commands r.log
  | .ok true => ⟨.ok .verified, r.store, r.commands, r.log ++ [.accepted nonce]⟩

/-- Carries out a plan; an entry reports a rejection that needs no store. -/
def carryOutWith (report : Reason → LogEntry) (reserve : Reserver Store) (store : Store)
    (caller : Caller) (now : DateTime) : Except Fault Plan → OutcomeOver Store
  | .error e => ⟨.error e, store, [], []⟩
  | .ok (.reject reason detail) => ⟨.ok (.rejected reason detail), store, [], [report reason]⟩
  | .ok .accept => ⟨.ok .verified, store, [], []⟩
  | .ok (.reserve nonce expires) => ofReservation nonce (reserve store caller nonce expires now)

/-- Carries out a plan for a delivery with this nonce header. -/
def carryOut (reserve : Reserver Store) (store : Store) (caller : Caller) (nonce : Option String)
    (now : DateTime) (plan : Except Fault Plan) : OutcomeOver Store :=
  carryOutWith (.rejected · nonce) reserve store caller now plan

end Stores

/-- A call of the verifier. -/
structure Call where
  caller : Caller
  body : Bytes
  fields : Fields
  /-- The reference time. -/
  now : DateTime

/-- The reference time of a call: the clock's unless one is given; a given one without an offset is
read as UTC. -/
def referenceTime (clock : DateTime) (given : Option DateTime) : DateTime :=
  given.elim clock DateTime.assumeUtc

/-- The delivery that a call is about. -/
def Call.delivery (config : Config) (call : Call) : Delivery :=
  .ofFields config.names call.body call.fields

/-- Verifies a delivery over a kind of store. -/
def verifyOver {Store : Type} (reserve : Reserver Store) (config : Config) (store : Store)
    (call : Call) : OutcomeOver Store :=
  let d := call.delivery config
  carryOut reserve store call.caller d.nonce call.now (plan config d call.now)

/-- Verifies a delivery. -/
def verify (config : Config) (store : NonceStore) (call : Call) : Outcome :=
  verifyOver NonceStore.reserve config store call

/-- Verifies deliveries one after another, and gives the store they leave. -/
def run (config : Config) : NonceStore → List Call → List Outcome × NonceStore
  | store, [] => ([], store)
  | store, call :: calls =>
    let outcome := verify config store call
    let later := run config outcome.store calls
    (outcome :: later.1, later.2)

@[simp] theorem run_nil (config : Config) (store : NonceStore) :
    run config store [] = ([], store) := rfl

@[simp] theorem run_cons (config : Config) (store : NonceStore) (call : Call) (calls : List Call) :
    run config store (call :: calls) =
      (verify config store call :: (run config (verify config store call).store calls).1,
        (run config (verify config store call).store calls).2) := rfl

end Verifier

end WebhookAuth
