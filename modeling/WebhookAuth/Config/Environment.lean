import WebhookAuth.Config
import WebhookAuth.Fields

/-!
# Configuration from the environment

Settings as text variables, whose values come in as raw text. Durations are numbers of seconds; a
blank greatest age lifts that bound, and an empty lifetime leaves it to follow from the tolerances.
The secret is encoded when everything is read.
-/

namespace WebhookAuth.Config

/-- The value of a variable as a span of seconds. No numeral has a surrogate. -/
def readSeconds (name : String) (value : RawText) : Except ConfigError Duration :=
  match value.characters.toOption.bind Duration.ofSecondsText? with
  | some d => .ok d
  | none => .error (.notSeconds name value)

/-- The skew that the environment sets. -/
def skewOf (env : Fields RawText) : Except ConfigError Duration :=
  readSeconds "SWISH_WEBHOOK_CLOCK_SKEW_SECONDS"
    ((env.get? "SWISH_WEBHOOK_CLOCK_SKEW_SECONDS").getD (.ofString "300"))

/-- The greatest age that the environment sets. -/
def maxAgeOf (env : Fields RawText) : Except ConfigError (Option Duration) :=
  match env.get? "SWISH_WEBHOOK_MAX_AGE_SECONDS" with
  | none => .ok (some (.seconds 600))
  | some value =>
    if value.isBlank then .ok none
    else (readSeconds "SWISH_WEBHOOK_MAX_AGE_SECONDS" value).map some

/-- The nonce policy that the environment names, in any case and with blank space around. No name
has a surrogate. -/
def policyOf (env : Fields RawText) : Except ConfigError NoncePolicy :=
  let value := (env.get? "SWISH_WEBHOOK_NONCE_POLICY").getD (.ofString NoncePolicy.required.name)
  match value.characters.toOption.bind fun text =>
    NoncePolicy.ofName? (Text.lower (String.ofList (Text.strip text.toList))) with
  | some policy => .ok policy
  | none => .error (.unknownPolicyVariable value)

/-- The lifetime of nonces that the environment sets. -/
def nonceTtlOf (env : Fields RawText) : Except ConfigError (Option Duration) :=
  match env.get? "SWISH_WEBHOOK_NONCE_TTL_SECONDS" with
  | none => .ok none
  | some value =>
    if value.isEmpty then .ok none
    else (readSeconds "SWISH_WEBHOOK_NONCE_TTL_SECONDS" value).map some

/-- The configuration that the variables of an environment make. -/
def ofEnvironment (env : Fields RawText) : Except ConfigError Config := do
  let secret := (env.get? "SWISH_WEBHOOK_SECRET").getD (.ofString "")
  if secret.isBlank then throw .missingSecret
  let skew ← skewOf env
  let maxAge ← maxAgeOf env
  let policy ← policyOf env
  let nonceTtl ← nonceTtlOf env
  let secret ← secret.encode.mapError .unencodableSecret
  Settings.validate { secret, skew := some skew, maxAge, policy := policy.name, nonceTtl }

end WebhookAuth.Config
