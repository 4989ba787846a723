import Mathlib.Tactic
import WebhookAuth.Config.Environment
import WebhookAuth.Proofs.CanonicalMessage
import WebhookAuth.Proofs.Durations
import WebhookAuth.Proofs.SecondsText

/-!
# Configuration from environment variables

Whatever the variables of an environment are, they make a configuration or have a fault, and the
first fault is the one that is told (`Config.ofEnvironment_tells`). A secret with a surrogate is a
fault of its own, which comes behind all other faults of the texts. What each span of time in a
configuration has to do with the text of its variable is said once for the three variables that set
one (`Config.SpanVariable.Sets`).
-/

namespace WebhookAuth.Config

variable {env : Fields RawText} {c : Config} {d : Duration} {set : Option Duration}
  {e : ConfigError}

/-! ### Variables for spans of time -/

/-- The span that a raw text is read as. -/
def spanOf? (text : RawText) : Option Duration :=
  text.characters.toOption.bind Duration.ofSecondsText?

/-- Only the raw text of a string is read as a span. -/
theorem spanOf?_eq_some_iff {text : RawText} :
    spanOf? text = some d ↔ ∃ s, text = .ofString s ∧ Duration.ofSecondsText? s = some d := by
  unfold spanOf?
  simp only [Option.bind_eq_some_iff, RawText.toOption_characters_eq_some_iff]

/-- Whole minutes, less than an hour. -/
def minutes (n : Fin 60) : Duration := .seconds (60 * n) (by omega)

/-- A variable of the environment that sets a span of time. -/
structure SpanVariable where
  name : String
  /-- The texts that set no span. -/
  isOff : RawText → Bool
  /-- The span without the variable. -/
  unset : Option Duration
  /-- The microseconds of the least span that passes the check. -/
  least : ℤ
  /-- The refusal of lesser spans. -/
  refusal : ConfigError

/-- The variable for the skew. -/
def skewVariable : SpanVariable where
  name := "SWISH_WEBHOOK_CLOCK_SKEW_SECONDS"
  isOff _ := false
  unset := some (minutes 5)
  least := 0
  refusal := .negativeSkew

/-- The variable for the greatest age. -/
def maxAgeVariable : SpanVariable where
  name := "SWISH_WEBHOOK_MAX_AGE_SECONDS"
  isOff := RawText.isBlank
  unset := some (minutes 10)
  least := 0
  refusal := .negativeMaxAge

/-- The variable for the lifetime of nonces. -/
def nonceTtlVariable : SpanVariable where
  name := "SWISH_WEBHOOK_NONCE_TTL_SECONDS"
  isOff := List.isEmpty
  unset := none
  least := 1
  refusal := .nonPositiveNonceTtl

/-- The variables for spans of time. -/
def spanVariables : List SpanVariable := [skewVariable, maxAgeVariable, nonceTtlVariable]

namespace SpanVariable

variable {x : SpanVariable}

/-- What the variable sets: what counts without it, nothing if its text says so, and else the span
with the microseconds of the numeral that the text is. -/
inductive Sets (x : SpanVariable) (env : Fields RawText) : Option Duration → Prop
  | unset (h : env.get? x.name = none) : Sets x env x.unset
  | off {text : RawText} (h : env.get? x.name = some text) (hoff : x.isOff text = true) :
    Sets x env none
  | given {text : String} {t : Numeral.Decimal} {d : Duration}
    (h : env.get? x.name = some (.ofString text)) (hon : x.isOff (.ofString text) = false)
    (hnamed : Numeral.named? text.toList = none)
    (hread : Numeral.decimal? text.toList = some t)
    (hmicros : d.micros = Duration.microsOf (Rounding.nearest t.value)) : Sets x env (some d)

/-- The span that the variable sets, if its text is read as one or sets none. -/
def span (x : SpanVariable) (env : Fields RawText) : Option Duration :=
  match env.get? x.name with
  | none => x.unset
  | some text => if x.isOff text then none else spanOf? text

/-- The fault of a text that is neither read as a span nor sets none. -/
def unreadable (x : SpanVariable) (env : Fields RawText) : List ConfigError :=
  match env.get? x.name with
  | none => []
  | some text =>
    if x.isOff text || (spanOf? text).isSome then [] else [.notSeconds x.name text]

/-- The fault of a span that does not pass the check. -/
def refused (x : SpanVariable) (env : Fields RawText) : List ConfigError :=
  if (x.span env).any (·.micros < x.least) then [x.refusal] else []

/-- How a variable is read. -/
def read (x : SpanVariable) (env : Fields RawText) : Except ConfigError (Option Duration) :=
  match env.get? x.name with
  | none => .ok x.unset
  | some text => if x.isOff text then .ok none else (readSeconds x.name text).map some

theorem read_maxAgeVariable (env : Fields RawText) : maxAgeVariable.read env = maxAgeOf env := rfl

theorem read_nonceTtlVariable (env : Fields RawText) :
    nonceTtlVariable.read env = nonceTtlOf env := rfl

/-- A variable has a fault in its text, or sets its span. -/
theorem read_cases (x : SpanVariable) (env : Fields RawText) :
    (x.unreadable env = [] ∧ x.read env = .ok (x.span env)) ∨
      ∃ e, x.unreadable env = [e] ∧ x.read env = .error e := by
  unfold unreadable read span
  cases env.get? x.name with
  | none => exact .inl ⟨rfl, rfl⟩
  | some text =>
    dsimp only
    by_cases hoff : x.isOff text = true
    · rw [hoff]
      exact .inl ⟨rfl, rfl⟩
    · rw [Bool.not_eq_true] at hoff
      rw [hoff]
      unfold readSeconds
      rw [← spanOf?]
      cases spanOf? text with
      | none => exact .inr ⟨_, rfl, rfl⟩
      | some d => exact .inl ⟨rfl, rfl⟩

/-- The skew is read from a text in any case, the one for it without the variable. -/
theorem read_skewVariable_cases (env : Fields RawText) :
    (skewVariable.unreadable env = [] ∧
        ∃ skew, skewVariable.span env = some skew ∧ skewOf env = .ok skew) ∨
      ∃ e, skewVariable.unreadable env = [e] ∧ skewOf env = .error e := by
  have hdefault : spanOf? (.ofString "300") = some (minutes 5) := by decide +kernel
  unfold unreadable span skewVariable skewOf readSeconds
  dsimp only
  cases env.get? "SWISH_WEBHOOK_CLOCK_SKEW_SECONDS" with
  | none =>
    rw [Option.getD_none, ← spanOf?, hdefault]
    exact .inl ⟨rfl, _, rfl, rfl⟩
  | some text =>
    dsimp only [Option.getD_some]
    rw [← spanOf?]
    cases spanOf? text with
    | none => exact .inr ⟨_, rfl, rfl⟩
    | some d => exact .inl ⟨rfl, d, rfl, rfl⟩

/-- A variable without a fault in its text sets its span. -/
theorem sets_span (h : x.unreadable env = []) : x.Sets env (x.span env) := by
  unfold unreadable at h
  unfold span
  cases htext : env.get? x.name with
  | none => exact .unset htext
  | some text =>
    rw [htext] at h
    dsimp only at h ⊢
    cases hoff : x.isOff text with
    | true => exact .off htext hoff
    | false =>
      cases hspan : spanOf? text with
      | none => simp [hoff, hspan] at h
      | some d =>
        obtain ⟨string, rfl, hstring⟩ := spanOf?_eq_some_iff.1 hspan
        obtain ⟨hnamed, t, hread, hmicros⟩ := Duration.ofSecondsText?_eq_some_iff.1 hstring
        exact .given htext hoff hnamed hread hmicros

end SpanVariable

/-! ### Faults -/

/-- The text of the policy. -/
def policyText (env : Fields RawText) : RawText :=
  (env.get? "SWISH_WEBHOOK_NONCE_POLICY").getD (.ofString NoncePolicy.required.name)

/-- The name of the policy, if its text is one of characters. -/
def policyName? (env : Fields RawText) : Option String :=
  (policyText env).characters.toOption.map fun text =>
    Text.lower (String.ofList (Text.strip text.toList))

/-- The text of the secret. -/
def secretText (env : Fields RawText) : RawText :=
  (env.get? "SWISH_WEBHOOK_SECRET").getD (.ofString "")

/-- The fault of an absent or blank secret. -/
def secretFaults (env : Fields RawText) : List ConfigError :=
  if (secretText env).isBlank then [.missingSecret] else []

/-- The fault of a text that names no policy. -/
def policyFaults (env : Fields RawText) : List ConfigError :=
  if policyName? env ∈ NoncePolicy.all.map fun policy => some policy.name then []
  else [.unknownPolicyVariable (policyText env)]

/-- The faults of the texts, in the order in which they are looked for. -/
def textFaults (env : Fields RawText) : List ConfigError :=
  secretFaults env ++ skewVariable.unreadable env ++ maxAgeVariable.unreadable env ++
    policyFaults env ++ nonceTtlVariable.unreadable env

/-- The faults of the spans that the texts set, in the order in which they are looked for. -/
def spanFaults (env : Fields RawText) : List ConfigError :=
  skewVariable.refused env ++ maxAgeVariable.refused env ++ nonceTtlVariable.refused env

/-- The fault of a secret that cannot be encoded. -/
def encodingFaults (env : Fields RawText) : List ConfigError :=
  match (secretText env).encode with
  | .error refusal => [.unencodableSecret refusal]
  | .ok _ => []

/-- All faults of an environment: those of the texts, then that of the secret's encoding, and those
of the spans. -/
def faults (env : Fields RawText) : List ConfigError :=
  textFaults env ++ encodingFaults env ++ spanFaults env

/-- A fault of the texts is one of the secret's, of the policy's or of a variable for a span. -/
theorem mem_textFaults_iff :
    e ∈ textFaults env ↔ e ∈ secretFaults env ∨ e ∈ policyFaults env ∨
      ∃ x ∈ spanVariables, e ∈ x.unreadable env := by
  simp only [textFaults, spanVariables, List.mem_append, List.exists_mem_cons_iff,
    List.not_mem_nil, false_and, exists_false, or_false]
  tauto

theorem mem_spanFaults_iff : e ∈ spanFaults env ↔ ∃ x ∈ spanVariables, e ∈ x.refused env := by
  simp [spanFaults, spanVariables]

theorem textFaults_eq_nil_iff :
    textFaults env = [] ↔ secretFaults env = [] ∧ policyFaults env = [] ∧
      ∀ x ∈ spanVariables, x.unreadable env = [] := by
  simp only [List.eq_nil_iff_forall_not_mem, mem_textFaults_iff, not_or, forall_and]
  simp only [not_exists, not_and]
  tauto

theorem policyOf_cases (env : Fields RawText) :
    (policyFaults env = [] ∧
        ∃ policy, policyOf env = .ok policy ∧ policyName? env = some policy.name) ∨
      ∃ e, policyFaults env = [e] ∧ policyOf env = .error e := by
  have hfound : (policyText env).characters.toOption.bind (fun text =>
      NoncePolicy.ofName? (Text.lower (String.ofList (Text.strip text.toList)))) =
        (policyName? env).bind NoncePolicy.ofName? := by
    rw [policyName?, Option.bind_map, Function.comp_def]
  unfold policyOf policyFaults
  dsimp only
  rw [← policyText, hfound]
  cases hname : (policyName? env).bind NoncePolicy.ofName? with
  | some policy =>
    obtain ⟨name, hname, hpolicy⟩ := Option.bind_eq_some_iff.1 hname
    have hsame : policy.name = name := by simpa using List.find?_some hpolicy
    rw [hname, ← hsame, if_pos (List.mem_map.2 ⟨policy, List.mem_of_find?_eq_some hpolicy, rfl⟩)]
    exact .inl ⟨rfl, policy, rfl, rfl⟩
  | none =>
    rw [if_neg]
    · exact .inr ⟨_, rfl, rfl⟩
    · intro hmem
      obtain ⟨policy, -, hpolicy⟩ := List.mem_map.1 hmem
      rw [← hpolicy, Option.bind_some, NoncePolicy.ofName?_name] at hname
      cases hname

/-- The settings that are read from an environment without a fault in its texts. -/
def settingsOf (env : Fields RawText) (secret : Bytes) : Settings where
  secret
  skew := skewVariable.span env
  maxAge := maxAgeVariable.span env
  policy := (policyName? env).getD NoncePolicy.required.name
  nonceTtl := nonceTtlVariable.span env

theorem ofEnvironment_eq (env : Fields RawText) :
    ofEnvironment env = match (textFaults env).head? with
      | some e => .error e
      | none => match (secretText env).encode with
        | .error refusal => .error (.unencodableSecret refusal)
        | .ok secret => (settingsOf env secret).validate := by
  unfold ofEnvironment textFaults settingsOf secretFaults
  rw [← secretText]
  dsimp only
  by_cases hsecret : (secretText env).isBlank = true
  · rw [if_pos hsecret, if_pos hsecret]
    rfl
  rw [if_neg hsecret, if_neg hsecret]
  rcases SpanVariable.read_skewVariable_cases env with
    ⟨hskew, skew, hspan, hread⟩ | ⟨e, hskew, hread⟩
  · rw [hskew, hread, hspan]
    rcases maxAgeVariable.read_cases env with ⟨hage, hread⟩ | ⟨e, hage, hread⟩
    · rw [hage, ← SpanVariable.read_maxAgeVariable, hread]
      rcases policyOf_cases env with ⟨hpolicy, policy, hread, hname⟩ | ⟨e, hpolicy, hread⟩
      · rw [hpolicy, hread, hname]
        rcases nonceTtlVariable.read_cases env with ⟨httl, hread⟩ | ⟨e, httl, hread⟩
        · rw [httl, ← SpanVariable.read_nonceTtlVariable, hread]
          cases (secretText env).encode <;> rfl
        · rw [httl, ← SpanVariable.read_nonceTtlVariable, hread]
          rfl
      · rw [hpolicy, hread]
        rfl
    · rw [hage, ← SpanVariable.read_maxAgeVariable, hread]
      rfl
  · rw [hskew, hread]
    rfl

/-- A secret without a fault in its text is given and not blank, and has bytes if it has any
encoding. -/
theorem exists_secret (h : secretFaults env = []) :
    env.get? "SWISH_WEBHOOK_SECRET" = some (secretText env) ∧ (secretText env).isBlank = false ∧
      ∀ secret, (secretText env).encode = .ok secret →
        secret ≠ [] ∧ ∃ text, secretText env = .ofString text ∧ secret = Utf8.encode text := by
  unfold secretFaults at h
  split_ifs at h with hblank
  rw [Bool.not_eq_true] at hblank
  refine ⟨?_, hblank, fun secret hencode => ?_⟩
  · unfold secretText at hblank ⊢
    cases htext : env.get? "SWISH_WEBHOOK_SECRET" with
    | none =>
      rw [htext, Option.getD_none, RawText.isBlank_ofString, Text.isBlankText_empty] at hblank
      cases hblank
    | some text => rw [Option.getD_some]
  · obtain ⟨text, htext, rfl⟩ := RawText.encode_eq_ok_iff.1 hencode
    refine ⟨fun hnil => ?_, text, htext, rfl⟩
    -- no text but the empty one has no bytes
    have hempty : text = "" := Utf8.encode_injective (hnil.trans rfl)
    rw [htext, hempty, RawText.isBlank_ofString, Text.isBlankText_empty] at hblank
    cases hblank

/-- The checks of the configuration find what the variables set amiss, and nothing else. -/
theorem validate_settingsOf_cases (h : textFaults env = []) {secret : Bytes} (hne : secret ≠ []) :
    (∃ e, (spanFaults env).head? = some e ∧ (settingsOf env secret).validate = .error e) ∨
      spanFaults env = [] ∧
        ∃ c, (settingsOf env secret).validate = .ok c ∧ c.settings = settingsOf env secret := by
  obtain ⟨-, hpolicy, hspans⟩ := textFaults_eq_nil_iff.1 h
  have hskew := hspans skewVariable (by simp [spanVariables])
  rcases SpanVariable.read_skewVariable_cases env with ⟨-, skew, hspan, -⟩ | ⟨e, hfault, -⟩
  swap
  · simp [hfault] at hskew
  rcases policyOf_cases env with ⟨-, policy, -, hname⟩ | ⟨e, hfault, -⟩
  swap
  · simp [hfault] at hpolicy
  have hskews : skewVariable.refused env = if skew.micros < 0 then [.negativeSkew] else [] := by
    unfold SpanVariable.refused
    rw [hspan, Option.any_some]
    simp only [decide_eq_true_eq]
    rfl
  have hages : maxAgeVariable.refused env =
      if (maxAgeVariable.span env).any (·.micros < 0) then [.negativeMaxAge] else [] := rfl
  have httls : nonceTtlVariable.refused env =
      if (nonceTtlVariable.span env).any (·.micros ≤ 0) then [.nonPositiveNonceTtl] else [] := by
    have hone (d : Duration) :
        decide (d.micros < nonceTtlVariable.least) = decide (d.micros ≤ 0) :=
      decide_eq_decide.2 (Int.lt_add_one_iff (b := 0))
    unfold SpanVariable.refused
    simp only [hone]
    rfl
  unfold spanFaults Settings.validate settingsOf
  dsimp only
  rw [dif_neg hne, hspan, hskews, hages, httls, hname, Option.getD_some, NoncePolicy.ofName?_name]
  dsimp only
  by_cases hnegative : skew.micros < 0
  · rw [if_pos hnegative, dif_pos hnegative]
    exact .inl ⟨_, rfl, rfl⟩
  by_cases hpast : (maxAgeVariable.span env).any (·.micros < 0) = true
  · rw [if_neg hnegative, dif_neg hnegative, if_pos hpast, dif_pos hpast]
    exact .inl ⟨_, rfl, rfl⟩
  by_cases hshort : (nonceTtlVariable.span env).any (·.micros ≤ 0) = true
  · rw [if_neg hnegative, dif_neg hnegative, if_neg hpast, dif_neg hpast, if_pos hshort,
      dif_pos hshort]
    exact .inl ⟨_, rfl, rfl⟩
  rw [if_neg hnegative, dif_neg hnegative, if_neg hpast, dif_neg hpast, if_neg hshort,
    dif_neg hshort]
  refine .inr ⟨rfl, _, rfl, ?_⟩
  rfl

/-! ### What an environment makes -/

/-- The configuration is what the variables of an environment without faults ask for. -/
structure Reads (env : Fields RawText) (c : Config) : Prop where
  /-- The secret is the text as it is, with any blank space around it. -/
  secret : ∃ text, env.get? "SWISH_WEBHOOK_SECRET" = some (.ofString text) ∧
    Text.isBlankText text = false ∧ c.secret = Utf8.encode text ∧ c.secret ≠ []
  skew : skewVariable.Sets env (some c.skew)
  skew_nonneg : 0 ≤ c.skew.micros
  maxAge : maxAgeVariable.Sets env c.maxAge
  maxAge_eq_none_iff : c.maxAge = none ↔
    ∃ text, env.get? "SWISH_WEBHOOK_MAX_AGE_SECONDS" = some text ∧ text.isBlank = true
  maxAge_nonneg : ∀ age ∈ c.maxAge, 0 ≤ age.micros
  nonceTtl : nonceTtlVariable.Sets env c.nonceTtl
  nonceTtl_eq_none_iff : c.nonceTtl = none ↔
    env.get? "SWISH_WEBHOOK_NONCE_TTL_SECONDS" = none ∨
      env.get? "SWISH_WEBHOOK_NONCE_TTL_SECONDS" = some []
  nonceTtl_pos : ∀ ttl ∈ c.nonceTtl, 0 < ttl.micros
  policy : policyName? env = some c.policy.name
  names : c.names = {}
  lifetime_pos : ∀ lifetime, c.nonceLifetime = .ok lifetime → 0 < lifetime.micros

namespace SpanVariable

variable {x : SpanVariable}

/-- Only two texts set no span: none at all, if nothing counts without, and one that says so. -/
theorem Sets.eq_none_iff (h : x.Sets env set) : set = none ↔
    (env.get? x.name = none ∧ x.unset = none) ∨
      ∃ text, env.get? x.name = some text ∧ x.isOff text = true := by
  cases h with
  | unset h => simp [h]
  | off h hoff => simp [h, hoff]
  | given h hon => simp [h, hon]

end SpanVariable

theorem reads_of_settings (h : textFaults env = []) {text : String}
    (htext : secretText env = .ofString text)
    (hc : c.settings = settingsOf env (Utf8.encode text)) :
    Reads env c := by
  obtain ⟨hsecret, hpolicy, hspans⟩ := textFaults_eq_nil_iff.1 h
  obtain ⟨hthere, hblank, -⟩ := exists_secret hsecret
  rw [htext] at hthere hblank
  rcases policyOf_cases env with ⟨-, policy, -, hname⟩ | ⟨e, hfault, -⟩
  swap
  · simp [hfault] at hpolicy
  have hnamed : c.policy.name = policy.name := by
    have hsame : c.policy.name = (policyName? env).getD NoncePolicy.required.name :=
      congrArg Settings.policy hc
    rwa [hname, Option.getD_some] at hsame
  have hskew := SpanVariable.sets_span (hspans skewVariable (by simp [spanVariables]))
  have hage := SpanVariable.sets_span (hspans maxAgeVariable (by simp [spanVariables]))
  have httl := SpanVariable.sets_span (hspans nonceTtlVariable (by simp [spanVariables]))
  rw [show skewVariable.span env = some c.skew from (congrArg Settings.skew hc).symm] at hskew
  rw [show maxAgeVariable.span env = c.maxAge from (congrArg Settings.maxAge hc).symm] at hage
  rw [show nonceTtlVariable.span env = c.nonceTtl from (congrArg Settings.nonceTtl hc).symm] at httl
  refine
    { secret := ⟨text, hthere, by rwa [RawText.isBlank_ofString] at hblank,
        congrArg Settings.secret hc, c.secret_ne_nil⟩
      skew := hskew
      skew_nonneg := c.skew_nonneg
      maxAge := hage
      maxAge_eq_none_iff := ?_
      maxAge_nonneg := c.maxAge_nonneg
      nonceTtl := httl
      nonceTtl_eq_none_iff := ?_
      nonceTtl_pos := c.nonceTtl_pos
      policy := hname.trans (congrArg some hnamed.symm)
      names := congrArg Settings.names hc
      lifetime_pos := fun _ => lifetime_pos }
  · rw [hage.eq_none_iff]
    simp [maxAgeVariable]
  · rw [httl.eq_none_iff]
    simp [nonceTtlVariable]

/-- What is amiss with an environment that is refused. -/
inductive IsAmiss (env : Fields RawText) : ConfigError → Prop
  | missingSecret
    (h : ∀ text, env.get? "SWISH_WEBHOOK_SECRET" = some text → text.isBlank = true) :
    IsAmiss env .missingSecret
  | notSeconds {x : SpanVariable} {text : RawText} (hx : x ∈ spanVariables)
    (h : env.get? x.name = some text) (hon : x.isOff text = false)
    (hread : ∀ s d, text = .ofString s → Duration.ofSecondsText? s ≠ some d) :
    IsAmiss env (.notSeconds x.name text)
  | unknownPolicy (h : ∀ policy : NoncePolicy, policyName? env ≠ some policy.name) :
    IsAmiss env (.unknownPolicyVariable (policyText env))
  | unencodable {text : RawText} {refusal : Unencodable}
    (h : env.get? "SWISH_WEBHOOK_SECRET" = some text) (hencode : text.encode = .error refusal) :
    IsAmiss env (.unencodableSecret refusal)
  | tooLittle {x : SpanVariable} {d : Duration} (hx : x ∈ spanVariables)
    (h : x.Sets env (some d)) (hlow : d.micros < x.least) : IsAmiss env x.refusal

namespace SpanVariable

variable {x : SpanVariable}

theorem isAmiss_of_mem_unreadable (hx : x ∈ spanVariables) (h : e ∈ x.unreadable env) :
    IsAmiss env e := by
  unfold unreadable at h
  split at h
  · cases h
  · rename_i text htext
    split_ifs at h with hreadable
    · cases h
    · rw [Bool.or_eq_true, not_or, Bool.not_eq_true, Option.isSome_iff_exists] at hreadable
      rw [List.mem_singleton.1 h]
      exact .notSeconds hx htext hreadable.1 fun s d hs hd =>
        hreadable.2 ⟨d, spanOf?_eq_some_iff.2 ⟨s, hs, hd⟩⟩

theorem isAmiss_of_mem_refused (hx : x ∈ spanVariables) (hread : x.unreadable env = [])
    (h : e ∈ x.refused env) : IsAmiss env e := by
  unfold refused at h
  split_ifs at h with hlow
  · obtain ⟨d, hd, hlow⟩ := (Option.any_eq_true _ _).1 hlow
    rw [List.mem_singleton.1 h]
    refine .tooLittle hx ?_ (of_decide_eq_true hlow)
    rw [← Option.mem_def.1 hd]
    exact sets_span hread
  · cases h

end SpanVariable

theorem isAmiss_of_mem_textFaults (h : e ∈ textFaults env) : IsAmiss env e := by
  rcases mem_textFaults_iff.1 h with hsecret | hpolicy | ⟨x, hx, hspan⟩
  · unfold secretFaults at hsecret
    split_ifs at hsecret with hblank
    · rw [List.mem_singleton.1 hsecret]
      refine .missingSecret fun text htext => ?_
      rwa [secretText, htext] at hblank
    · cases hsecret
  · unfold policyFaults at hpolicy
    split_ifs at hpolicy with hnamed
    · cases hpolicy
    · rw [List.mem_singleton.1 hpolicy]
      refine .unknownPolicy fun policy hname => hnamed (List.mem_map.2 ⟨policy, ?_, hname.symm⟩)
      cases policy <;> decide
  · exact SpanVariable.isAmiss_of_mem_unreadable hx hspan

theorem isAmiss_of_mem_spanFaults (htext : textFaults env = []) (h : e ∈ spanFaults env) :
    IsAmiss env e := by
  obtain ⟨x, hx, hrefused⟩ := mem_spanFaults_iff.1 h
  exact SpanVariable.isAmiss_of_mem_refused hx ((textFaults_eq_nil_iff.1 htext).2.2 x hx) hrefused

/-- A refusal for a span is one of three. -/
theorem refusal_mem_of_mem_spanVariables {x : SpanVariable} (hx : x ∈ spanVariables) :
    x.refusal ∈ [.negativeSkew, .negativeMaxAge, .nonPositiveNonceTtl] := by
  have hrefusals : ∀ x ∈ spanVariables,
      x.refusal ∈ [.negativeSkew, .negativeMaxAge, .nonPositiveNonceTtl] := by
    simp [spanVariables, skewVariable, maxAgeVariable, nonceTtlVariable]
  exact hrefusals x hx

/-- An environment can not leave the skew out. -/
theorem IsAmiss.ne_noSkew (h : IsAmiss env e) : e ≠ .noSkew := by
  cases h with
  | missingSecret | notSeconds | unknownPolicy | unencodable => simp
  | tooLittle hx =>
    intro hrefusal
    have hmem := refusal_mem_of_mem_spanVariables hx
    rw [hrefusal] at hmem
    exact absurd hmem (by simp)

/-- The secret of the environment is given and has a surrogate. -/
def HasSurrogateSecret (env : Fields RawText) : Prop :=
  ∃ text, env.get? "SWISH_WEBHOOK_SECRET" = some text ∧ ∃ p ∈ text, p.isSurrogate = true

theorem hasSurrogateSecret_iff (h : secretFaults env = []) :
    HasSurrogateSecret env ↔ ∃ refusal, (secretText env).encode = .error refusal := by
  have hthere := (exists_secret h).1
  rw [RawText.exists_encode_eq_error_iff]
  constructor
  · rintro ⟨text, htext, hsurrogate⟩
    cases hthere.symm.trans htext
    exact hsurrogate
  · exact fun hsurrogate => ⟨_, hthere, hsurrogate⟩

theorem SpanVariable.exists_of_mem_unreadable {x : SpanVariable} (h : e ∈ x.unreadable env) :
    ∃ text, e = .notSeconds x.name text := by
  unfold unreadable at h
  split at h
  · cases h
  · rename_i text htext
    split_ifs at h
    · cases h
    · exact ⟨text, List.mem_singleton.1 h⟩

/-- No fault of a text is that the secret cannot be encoded. -/
theorem ne_unencodableSecret_of_mem_textFaults (h : e ∈ textFaults env) (refusal : Unencodable) :
    e ≠ .unencodableSecret refusal := by
  rintro rfl
  rcases mem_textFaults_iff.1 h with hsecret | hpolicy | ⟨x, -, hspan⟩
  · unfold secretFaults at hsecret
    split_ifs at hsecret <;> simp at hsecret
  · unfold policyFaults at hpolicy
    split_ifs at hpolicy <;> simp at hpolicy
  · obtain ⟨text, htext⟩ := SpanVariable.exists_of_mem_unreadable hspan
    cases htext

/-- No fault of a span is either. -/
theorem ne_unencodableSecret_of_mem_spanFaults (h : e ∈ spanFaults env) (refusal : Unencodable) :
    e ≠ .unencodableSecret refusal := by
  obtain ⟨x, hx, hrefused⟩ := mem_spanFaults_iff.1 h
  unfold SpanVariable.refused at hrefused
  split_ifs at hrefused
  · have hthree := refusal_mem_of_mem_spanVariables hx
    rw [← List.mem_singleton.1 hrefused] at hthree
    rintro rfl
    simp at hthree
  · cases hrefused

/-- The variables of every environment make the configuration that they ask for, and then they have
no fault; or they are refused for the first of their faults, as what is amiss with them. That the
secret cannot be encoded is told just if it has a surrogate and no text has a fault. -/
theorem ofEnvironment_tells (env : Fields RawText) :
    (∃ c, ofEnvironment env = .ok c ∧ faults env = [] ∧ Reads env c) ∨
      ∃ e, ofEnvironment env = .error e ∧ (faults env).head? = some e ∧ IsAmiss env e ∧
        e ≠ .noSkew ∧
        ((∃ refusal, e = .unencodableSecret refusal) ↔
          textFaults env = [] ∧ HasSurrogateSecret env) := by
  rw [ofEnvironment_eq]
  unfold faults encodingFaults
  cases htext : textFaults env with
  | cons e others =>
    have hmem : e ∈ textFaults env := htext ▸ List.mem_cons_self
    have hamiss : IsAmiss env e := isAmiss_of_mem_textFaults hmem
    refine .inr ⟨e, rfl, rfl, hamiss, hamiss.ne_noSkew, iff_of_false ?_ fun h => by cases h.1⟩
    rintro ⟨refusal, he⟩
    exact ne_unencodableSecret_of_mem_textFaults hmem refusal he
  | nil =>
    have hsecret : secretFaults env = [] := (textFaults_eq_nil_iff.1 htext).1
    obtain ⟨hthere, -, hbytes⟩ := exists_secret hsecret
    have hsurrogate := hasSurrogateSecret_iff hsecret
    cases hencode : (secretText env).encode with
    | error refusal =>
      have hamiss : IsAmiss env (.unencodableSecret refusal) := .unencodable hthere hencode
      exact .inr ⟨_, rfl, rfl, hamiss, hamiss.ne_noSkew,
        iff_of_true ⟨refusal, rfl⟩ ⟨rfl, hsurrogate.2 ⟨refusal, hencode⟩⟩⟩
    | ok secret =>
      obtain ⟨hne, text, hstring, rfl⟩ := hbytes secret hencode
      rcases validate_settingsOf_cases htext hne with ⟨e, hfirst, hvalid⟩ | ⟨hnone, c, hvalid, hc⟩
      · have hmem : e ∈ spanFaults env := List.mem_of_mem_head? hfirst
        have hamiss : IsAmiss env e := isAmiss_of_mem_spanFaults htext hmem
        refine .inr ⟨e, hvalid, hfirst, hamiss, hamiss.ne_noSkew, iff_of_false ?_ ?_⟩
        · rintro ⟨refusal, he⟩
          exact ne_unencodableSecret_of_mem_spanFaults hmem refusal he
        · rintro ⟨-, hlone⟩
          obtain ⟨refusal, hrefusal⟩ := hsurrogate.1 hlone
          cases hencode.symm.trans hrefusal
      · exact .inl ⟨c, hvalid, hnone, reads_of_settings htext hstring hc⟩

/-- Less than half a microsecond behind zero is no negative skew, and the secret keeps its space. -/
example : (ofEnvironment [("SWISH_WEBHOOK_SECRET", .ofString " s"),
    ("SWISH_WEBHOOK_CLOCK_SKEW_SECONDS", .ofString "-1e-7"),
    ("SWISH_WEBHOOK_MAX_AGE_SECONDS", .ofString " ")]).map
      (fun c => (c.secret, c.skew, c.maxAge)) = .ok ([32, 115], .zero, none) := by
  decide +kernel

/-- A surrogate. -/
def sampleSurrogate : Surrogate := ⟨0xDCFF, by decide, by decide⟩

/-- A secret of one surrogate, which is all that is amiss, is not refused as a setting: it fails to
be encoded. -/
theorem ofEnvironment_sampleSurrogate :
    textFaults [("SWISH_WEBHOOK_SECRET", [.surrogate sampleSurrogate])] = [] ∧
      ofEnvironment [("SWISH_WEBHOOK_SECRET", [.surrogate sampleSurrogate])] =
        .error (.unencodableSecret ⟨0, sampleSurrogate, 0⟩) := by
  constructor
  · decide +kernel
  · decide +kernel

end WebhookAuth.Config
