import WebhookAuth.HeaderNames
import WebhookAuth.Payload
import WebhookAuth.Text.Quoted
import WebhookAuth.Time.Duration

/-!
# Configuration

What a verifier is told: the shared secret, the tolerances for the send time, whether a nonce is
wanted and how long it is remembered. A `Config` has passed every check; `Settings` have not.
-/

namespace WebhookAuth

/-- Must a delivery carry a nonce? -/
inductive NoncePolicy where
  | required
  | optional
  | disabled
  deriving DecidableEq, Repr

namespace NoncePolicy

/-- All policies. -/
def all : List NoncePolicy := [required, optional, disabled]

/-- The name of a policy in settings. -/
def name : NoncePolicy → String
  | required => "required"
  | optional => "optional"
  | disabled => "disabled"

/-- The policy with a name. -/
def ofName? (name : String) : Option NoncePolicy :=
  all.find? (·.name == name)

/-- A policy is found by its name. -/
theorem ofName?_name (p : NoncePolicy) : ofName? p.name = some p := by
  cases p <;> decide

end NoncePolicy

/-- Why a verifier or a store cannot be set up. -/
inductive ConfigError where
  | emptySecret
  /-- The skew is set to nothing. -/
  | noSkew
  | negativeSkew
  | negativeMaxAge
  | nonPositiveNonceTtl
  | unknownPolicy (name : String)
  /-- The environment gives no secret. -/
  | missingSecret
  /-- The secret of the environment cannot be encoded. -/
  | unencodableSecret (e : Unencodable)
  /-- A variable of the environment is no number of seconds within range. -/
  | notSeconds (name : String) (value : RawText)
  /-- The environment names no policy. -/
  | unknownPolicyVariable (value : RawText)
  /-- A remote store is given no client. -/
  | noClient
  /-- A remote store is to remember nonces for no time. -/
  | nonPositiveMaxTtl
  deriving DecidableEq, Repr

/-- The text of the refusal. -/
def ConfigError.message : ConfigError → String
  | .emptySecret => "Webhook secret must not be empty"
  | .noSkew =>
    "'<' not supported between instances of 'NoneType' and 'datetime.timedelta'"
  | .negativeSkew => "allowed_clock_skew must not be negative"
  | .negativeMaxAge => "max_message_age must not be negative"
  | .nonPositiveNonceTtl => "nonce_ttl must be positive"
  | .unknownPolicy name => s!"Unknown nonce policy: {Text.quoted name}"
  | .missingSecret => "Missing SWISH_WEBHOOK_SECRET"
  | .unencodableSecret e => e.message
  | .notSeconds name value => s!"{name} must be a number of seconds, got {value.quoted}"
  | .unknownPolicyVariable value => s!"Unknown SWISH_WEBHOOK_NONCE_POLICY: {value.quoted}"
  | .noClient => "RedisNonceStore needs a client or an async_client"
  | .nonPositiveMaxTtl => "max_ttl must be positive"

/-- What a verifier is to be told, unchecked. -/
structure Settings where
  secret : Bytes
  /-- How far the clocks of sender and receiver may be apart. -/
  skew : Option Duration := some (.seconds 300)
  /-- How old a delivery may be, if that is bounded. -/
  maxAge : Option Duration := some (.seconds 600)
  /-- The name of the nonce policy. -/
  policy : String := NoncePolicy.required.name
  /-- How long a nonce is remembered, unless that follows from the tolerances. -/
  nonceTtl : Option Duration := none
  names : HeaderNames := {}
  deriving DecidableEq, Repr

/-- What a verifier is told. -/
structure Config where
  secret : Bytes
  skew : Duration
  maxAge : Option Duration
  policy : NoncePolicy
  nonceTtl : Option Duration
  names : HeaderNames
  secret_ne_nil : secret ≠ []
  skew_nonneg : 0 ≤ skew.micros
  maxAge_nonneg : ∀ age ∈ maxAge, 0 ≤ age.micros
  nonceTtl_pos : ∀ ttl ∈ nonceTtl, 0 < ttl.micros
  deriving DecidableEq, Repr

/-- Settings that pass every check; of several faults the first in the order of the fields tells. -/
def Settings.validate (s : Settings) : Except ConfigError Config :=
  if hs : s.secret = [] then .error .emptySecret
  else match s.skew with
  | none => .error .noSkew
  | some skew =>
    if hk : skew.micros < 0 then .error .negativeSkew
    else if ha : s.maxAge.any (·.micros < 0) then .error .negativeMaxAge
    else if ht : s.nonceTtl.any (·.micros ≤ 0) then .error .nonPositiveNonceTtl
    else match NoncePolicy.ofName? s.policy with
    | none => .error (.unknownPolicy s.policy)
    | some policy => .ok
      { secret := s.secret
        skew
        maxAge := s.maxAge
        policy
        nonceTtl := s.nonceTtl
        names := s.names
        secret_ne_nil := hs
        skew_nonneg := by omega
        maxAge_nonneg := by
          intro age h
          rw [Option.mem_def.1 h] at ha
          simpa using ha
        nonceTtl_pos := by
          intro ttl h
          rw [Option.mem_def.1 h] at ht
          simpa using ht }

namespace Config

/-- How long a nonce is remembered: as long as its timestamp could still pass the window, unless
something else is set. -/
def nonceLifetime (c : Config) : Except TimeError Duration :=
  match c.nonceTtl with
  | some ttl => .ok ttl
  | none => do
    let ttl ← c.skew.add (c.maxAge.getD c.skew)
    return if 0 < ttl.micros then ttl else .seconds 1

end Config

end WebhookAuth
