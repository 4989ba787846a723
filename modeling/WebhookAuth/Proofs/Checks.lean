import WebhookAuth.Proofs.CanonicalMessage
import WebhookAuth.Proofs.Consumption
import WebhookAuth.Proofs.History
import WebhookAuth.Proofs.RawCalls

/-!
# The checks in order

Verification is a list of checks, each with the rejection that it leads to: first those that need no
store (`localChecks`), then what the store answers (`storeChecks`). The first check that fails gives
the verdict, and a delivery that passes all of them is verified, unless a text that has to be
encoded has a surrogate (`result_eq_verdictOf`).
-/

namespace WebhookAuth

/-- A check with the rejection that its failure leads to. -/
structure Check where
  passes : Bool
  reason : Reason
  detail : Option String
  deriving DecidableEq, Repr

namespace Check

variable {checks : List Check} {reason : Reason} {detail : Option String}

/-- The first check that fails. -/
def firstFailure (checks : List Check) : Option Check := checks.find? (!·.passes)

/-- The verdict: the rejection of the first check that fails. -/
def verdictOf (checks : List Check) : Verdict :=
  (firstFailure checks).elim .verified fun check => .rejected check.reason check.detail

@[simp] theorem firstFailure_nil : firstFailure [] = none := rfl

@[simp] theorem firstFailure_cons_true :
    firstFailure (⟨true, reason, detail⟩ :: checks) = firstFailure checks := rfl

@[simp] theorem firstFailure_cons_false :
    firstFailure (⟨false, reason, detail⟩ :: checks) = some ⟨false, reason, detail⟩ := rfl

theorem firstFailure_append (checks more : List Check) :
    firstFailure (checks ++ more) = (firstFailure checks).or (firstFailure more) :=
  List.find?_append

theorem verdictOf_eq_verified_iff :
    verdictOf checks = .verified ↔ ∀ check ∈ checks, check.passes = true := by
  unfold verdictOf
  cases hfirst : firstFailure checks with
  | none => simpa [firstFailure] using hfirst
  | some check =>
    have hmem := List.mem_of_find?_eq_some hfirst
    have hfails := List.find?_some hfirst
    simp only [Option.elim_some, reduceCtorEq, false_iff, not_forall]
    exact ⟨check, hmem, by simpa using hfails⟩

end Check

namespace Verifier

variable {config : Config} {d : Delivery RawText} {now : DateTime}

/-- The declared send time of a delivery. -/
def declared? (d : Delivery RawText) : Option DateTime :=
  d.timestamp.bind fun timestamp => (Timestamp.readRaw timestamp).toOption

/-- The tag that the signature header of a raw delivery gives. -/
def rawTag? (d : Delivery RawText) : Option Bytes :=
  d.signature.bind fun signature =>
    signature.characters.toOption.bind fun signature => (Signature.decode signature).toOption

/-- The bytes that the signature of a raw delivery must be for, if it has a timestamp and all that
is signed can be encoded. -/
def rawMessage? (config : Config) (d : Delivery RawText) : Option Bytes :=
  d.timestamp.bind fun timestamp => (signedTexts config d timestamp).toOption.map fun texts =>
    Signature.canonicalMessage texts.1 texts.2 d.body

/-- The nonce that counts, if it can be encoded. -/
def signedNonce? (config : Config) (d : Delivery RawText) : Option String :=
  (nonceOf config d).bind fun nonce => nonce.characters.toOption

/-- The checks of the headers. -/
def headerChecks (config : Config) (d : Delivery RawText) : List Check :=
  [⟨d.timestamp.isSome, .missingHeader, some config.names.timestamp⟩,
    ⟨d.signature.isSome, .missingHeader, some config.names.signature⟩,
    ⟨config.policy ≠ .required || d.nonce.isSome, .missingHeader, some config.names.nonce⟩]

/-- The checks of the declared send time. -/
def timeChecks (config : Config) (d : Delivery RawText) (now : DateTime) : List Check :=
  [⟨(declared? d).isSome, .invalidTimestampFormat, none⟩,
    ⟨(declared? d).any fun declared => config.InWindow declared now, .timestampOutOfWindow, none⟩]

/-- The checks of the signature. -/
def signatureChecks (config : Config) (d : Delivery RawText) : List Check :=
  [⟨(rawTag? d).isSome, .signatureMismatch, some "undecodable signature"⟩,
    ⟨rawTag? d = (rawMessage? config d).map (Signature.tag config.secret), .signatureMismatch,
      none⟩]

/-- The checks of what a store answers about the nonce that counts. -/
def storeChecks (nonce : Option String) (answer : String → Except StoreError Bool) : List Check :=
  [⟨nonce.all fun nonce => answer nonce ≠ .error .unavailable, .storeUnavailable, none⟩,
    ⟨nonce.all fun nonce => answer nonce = .ok true, .replayDetected, none⟩]

/-- The checks that need no store, in their order. -/
def localChecks (config : Config) (d : Delivery RawText) (now : DateTime) : List Check :=
  headerChecks config d ++ timeChecks config d now ++ signatureChecks config d

/-- All checks, in their order. -/
def checks (config : Config) (d : Delivery RawText) (now : DateTime)
    (answer : String → Except StoreError Bool) : List Check :=
  localChecks config d now ++ storeChecks (signedNonce? config d) answer

/-! ### What is signed -/

/-- The texts that are signed can be encoded just if the timestamp and the nonce that counts are raw
texts of strings. -/
theorem signedTexts_eq_ok_iff {timestamp : RawText} {text : String} {nonce : Option String} :
    signedTexts config d timestamp = .ok (text, nonce) ↔
      timestamp = .ofString text ∧ nonceOf config d = nonce.map .ofString := by
  rw [← RawText.characters_eq_ok_iff]
  unfold signedTexts
  cases timestamp.characters with
  | error e => simp [bind, Except.bind]
  | ok found =>
    dsimp only [bind, Except.bind]
    cases nonceOf config d with
    | none => simp [pure, Except.pure, eq_comm]
    | some raw =>
      dsimp only
      cases hraw : raw.characters with
      | error e =>
        have hnot (s : String) : RawText.ofString s ≠ raw := by
          rintro rfl
          rw [RawText.characters_ofString] at hraw
          cases hraw
        simpa [eq_comm] using fun _ s _ => hnot s
      | ok s =>
        obtain rfl := RawText.characters_eq_ok_iff.1 hraw
        simp [pure, Except.pure, RawText.ofString_inj, eq_comm]

section Texts

variable {timestamp : RawText} {text : String} {nonce : Option String}

theorem signedNonce?_eq (h : signedTexts config d timestamp = .ok (text, nonce)) :
    signedNonce? config d = nonce := by
  rw [signedNonce?, (signedTexts_eq_ok_iff.1 h).2]
  cases nonce with
  | none => rfl
  | some s =>
    rw [Option.map_some, Option.bind_some, RawText.characters_ofString]
    rfl

theorem rawMessage?_eq (htimestamp : d.timestamp = some timestamp)
    (h : signedTexts config d timestamp = .ok (text, nonce)) :
    rawMessage? config d = some (Signature.canonicalMessage text nonce d.body) := by
  rw [rawMessage?, htimestamp, Option.bind_some, h]
  rfl

/-- A nonce that counts in one delivery counts in any that has it. -/
theorem nonceOf_eq (h : signedTexts config d timestamp = .ok (text, nonce))
    (d' : Delivery) (hd' : d'.nonce = nonce) : nonceOf config d' = nonce := by
  have hnonce := (signedTexts_eq_ok_iff.1 h).2
  unfold nonceOf at hnonce ⊢
  split_ifs at hnonce ⊢ with hpolicy
  · cases nonce with
    | none => rfl
    | some s => cases hnonce
  · exact hd'

end Texts

/-! ### The plan -/

/-- A raw delivery that is not rejected has no nonce that counts and is accepted, or the nonce is
the raw text of a string and reserved. -/
theorem planRaw_eq_ok_cases {p : Plan} (h : planRaw config d now = .ok p) :
    (∃ reason detail, p = .reject reason detail) ∨ (nonceOf config d = none ∧ p = .accept) ∨
      ∃ nonce expires, nonceOf config d = some (.ofString nonce) ∧ p = .reserve nonce expires := by
  rcases exists_hasHeaders_or_missing config d with ⟨timestamp, signature, hheaders⟩ |
    ⟨name, hmissing⟩
  swap
  · rw [planRaw, hmissing] at h
    cases h
    exact .inl ⟨_, _, rfl⟩
  rw [planRaw, hheaders.planHeaders_eq] at h
  rcases planWindow_cases config now (Timestamp.readRaw timestamp) with
    ⟨declared, -, -, hnext⟩ | ⟨reason, -, hreject⟩ | ⟨fault, hfault, -⟩
  · rw [hnext] at h
    unfold planRawSigned at h
    split at h
    · cases h
    · rename_i text nonce htexts
      split at h
      · cases h
        exact .inl ⟨_, _, rfl⟩
      · unfold planSigned at h
        split at h
        · cases h
          exact .inl ⟨_, _, rfl⟩
        · cases h
          exact .inl ⟨_, _, rfl⟩
        · right
          unfold planReservation at h
          rw [nonceOf_eq htexts _ rfl] at h
          rw [(signedTexts_eq_ok_iff.1 htexts).2]
          cases nonce with
          | none =>
            cases h
            exact .inl ⟨rfl, rfl⟩
          | some nonce =>
            dsimp only at h
            split at h
            · cases h
            · cases h
              exact .inr ⟨nonce, _, rfl, rfl⟩
  · rw [hreject] at h
    cases h
    exact .inl ⟨_, _, rfl⟩
  · rw [hfault] at h
    cases h

/-- The plan that rejects for a failure if there is one, and goes on otherwise. -/
def rejectFor (failure : Option Check) (next : Except Fault Plan) : Except Fault Plan :=
  match failure with
  | some check => .ok (.reject check.reason check.detail)
  | none => next

theorem rejectFor_or (first second : Option Check) (next : Except Fault Plan) :
    rejectFor (first.or second) next = rejectFor first (rejectFor second next) := by
  cases first with
  | none => rfl
  | some check => rfl

theorem rejectFor_congr {failure : Option Check} {next next' : Except Fault Plan}
    (h : failure = none → next = next') : rejectFor failure next = rejectFor failure next' := by
  cases failure with
  | none => exact h rfl
  | some check => rfl

section Stages

variable {timestamp signature : RawText}

theorem planHeaders_eq_rejectFor {next : RawText → RawText → Except Fault Plan}
    {after : Except Fault Plan}
    (hnext : ∀ timestamp signature, HasHeaders config d timestamp signature →
      next timestamp signature = after) :
    planHeaders config d next = rejectFor (Check.firstFailure (headerChecks config d)) after := by
  unfold planHeaders headerChecks
  cases htimestamp : d.timestamp with
  | none => rfl
  | some timestamp =>
    cases hsignature : d.signature with
    | none => rfl
    | some signature =>
      dsimp only
      -- a nonce is missed under one policy only
      by_cases hmissing : d.nonce.isNone ∧ config.policy = .required
      · rw [if_pos hmissing, hmissing.2, Option.isNone_iff_eq_none.1 hmissing.1]
        rfl
      · have hheaders := HasHeaders.of_not_missing htimestamp hsignature hmissing
        have hpasses : (decide (config.policy ≠ .required) || d.nonce.isSome) = true := by
          rw [Bool.or_eq_true, decide_eq_true_eq, ← imp_iff_not_or]
          exact hheaders.nonce_isSome
        rw [if_neg hmissing, hnext timestamp signature hheaders, hpasses]
        rfl

theorem planWindow_eq_rejectFor (hskew : config.skew.micros ≤ Config.maxSkewMicros)
    (hnow : now.isAware = true) (htimestamp : d.timestamp = some timestamp)
    (hdigits : ∀ refusal, Timestamp.readRaw timestamp ≠ .error (.tooManyDigits refusal))
    (next : Except Fault Plan) :
    planWindow config now (Timestamp.readRaw timestamp) next =
      rejectFor (Check.firstFailure (timeChecks config d now)) next := by
  unfold planWindow timeChecks declared?
  rw [htimestamp, Option.bind_some]
  cases hread : Timestamp.readRaw timestamp with
  | error e =>
    cases e with
    | tooManyDigits refusal => exact absurd hread (hdigits refusal)
    | outOfRange => rfl
    | unrecognized => rfl
  | ok declared =>
    dsimp only [Except.toOption]
    rw [Option.any_some,
      Config.isWithinWindow_eq hskew (Timestamp.isAware_of_readRaw hread) hnow]
    by_cases hwindow : config.InWindow declared now
    · rw [decide_eq_true hwindow]
      rfl
    · rw [decide_eq_false hwindow]
      rfl

/-- The checks of the send time pass only for a time in the window. -/
theorem exists_inWindow_of_timeChecks (htimestamp : d.timestamp = some timestamp)
    (h : Check.firstFailure (timeChecks config d now) = none) :
    ∃ declared, Timestamp.readRaw timestamp = .ok declared ∧ config.InWindow declared now := by
  unfold timeChecks declared? at h
  rw [htimestamp, Option.bind_some] at h
  cases hread : Timestamp.readRaw timestamp with
  | error e =>
    rw [hread] at h
    cases h
  | ok declared =>
    by_cases hwindow : config.InWindow declared now
    · exact ⟨declared, rfl, hwindow⟩
    · rw [hread] at h
      dsimp only [Except.toOption] at h
      rw [Option.any_some, decide_eq_false hwindow] at h
      cases h

/-- What follows for a raw delivery that passes all checks which need no store. -/
def rawReservation (config : Config) (d : Delivery RawText) (now : DateTime) : Except Fault Plan :=
  planReservation config ⟨d.body, none, none, signedNonce? config d⟩ now

theorem planRawSigned_eq_rejectFor {text : String} {nonce : Option String}
    (htimestamp : d.timestamp = some timestamp) (hsignature : d.signature = some signature)
    (htexts : signedTexts config d timestamp = .ok (text, nonce)) :
    planRawSigned config d timestamp signature now =
      rejectFor (Check.firstFailure (signatureChecks config d)) (rawReservation config d now) := by
  have hmessage := rawMessage?_eq htimestamp htexts
  have hnonce : signedNonce? config d = nonce := signedNonce?_eq htexts
  unfold planRawSigned rawReservation
  rw [htexts, hnonce]
  dsimp only
  cases hvalue : signature.characters with
  | error e =>
    have htag : rawTag? d = none := by
      rw [rawTag?, hsignature, Option.bind_some, hvalue]
      rfl
    rw [signatureChecks, htag]
    rfl
  | ok value =>
    have htag : rawTag? d = (Signature.decode value).toOption := by
      rw [rawTag?, hsignature, Option.bind_some, hvalue]
      rfl
    rw [signatureChecks, htag, hmessage, Option.map_some]
    unfold planSigned Signature.isValid signedMessage
    dsimp only
    rw [nonceOf_eq htexts ⟨d.body, some text, some value, nonce⟩ rfl]
    cases Signature.decode value with
    | error e => rfl
    | ok found =>
      by_cases hsame : found =
          Signature.tag config.secret (Signature.canonicalMessage text nonce d.body)
      · rw [← hsame]
        simp [Except.map, rejectFor, Except.toOption]
        rfl
      · have hne := beq_eq_false_iff_ne.2 hsame
        simp [hsame, hne, Except.map, rejectFor, Except.toOption]

end Stages

/-- The plan for a raw delivery is to reject it for the first check that fails, if the skew can be
turned around, the reference time states its offset, the timestamp is short enough to be read, and
what is signed can be encoded by the time that it is. -/
theorem planRaw_eq_firstFailure (hskew : config.skew.micros ≤ Config.maxSkewMicros)
    (hnow : now.isAware = true)
    (hdigits : ∀ timestamp signature, HasHeaders config d timestamp signature → ∀ refusal,
      Timestamp.readRaw timestamp ≠ .error (.tooManyDigits refusal))
    (htexts : ∀ timestamp signature declared, HasHeaders config d timestamp signature →
      Timestamp.readRaw timestamp = .ok declared → config.InWindow declared now →
      ∃ texts, signedTexts config d timestamp = .ok texts) :
    planRaw config d now =
      rejectFor (Check.firstFailure (localChecks config d now)) (rawReservation config d now) := by
  rw [localChecks, Check.firstFailure_append, Check.firstFailure_append, rejectFor_or, rejectFor_or]
  refine planHeaders_eq_rejectFor fun timestamp signature hheaders => ?_
  rw [planWindow_eq_rejectFor hskew hnow hheaders.timestamp_eq
    (hdigits timestamp signature hheaders)]
  refine rejectFor_congr fun hpass => ?_
  obtain ⟨declared, hread, hwindow⟩ := exists_inWindow_of_timeChecks hheaders.timestamp_eq hpass
  obtain ⟨⟨text, nonce⟩, htexts⟩ := htexts timestamp signature declared hheaders hread hwindow
  exact planRawSigned_eq_rejectFor hheaders.timestamp_eq hheaders.signature_eq htexts

/-! ### The verdict -/

section Stores

variable {Store : Type} {reserve : Reserver Store} {store : Store} {caller : Caller}
  {expires : DateTime}

theorem result_ofReservation (nonce : String) (r : Reservation Store)
    (hanswer : r.answer ∈ [.ok true, .ok false, .error .unavailable]) :
    (ofReservation nonce r).result = .ok (Check.verdictOf
      [⟨r.answer ≠ .error .unavailable, .storeUnavailable, none⟩,
        ⟨r.answer = .ok true, .replayDetected, none⟩]) := by
  obtain ⟨answer, left, commands, log⟩ := r
  simp only [List.mem_cons, List.not_mem_nil, or_false] at hanswer
  rcases hanswer with rfl | rfl | rfl
  · rfl
  · rfl
  · rfl

/-- Without a policy that counts it, no nonce can be encoded and count. -/
theorem signedNonce?_eq_some_iff {nonce : String} :
    signedNonce? config d = some nonce ↔
      config.policy ≠ .disabled ∧ d.nonce = some (.ofString nonce) := by
  unfold signedNonce? nonceOf
  split_ifs with hpolicy
  · simp [hpolicy]
  · rw [RawText.bind_characters_eq_some_iff]
    simp [hpolicy]

/-- A store that answers about the nonce that counts, or is unavailable, decides about a delivery
that passes all other checks. -/
theorem result_carryOutWith_rawReservation {report : Reason → LogEntry}
    (hexpiry : expiry config now = .ok expires)
    (hanswer : ∀ nonce ∈ signedNonce? config d, (reserve store caller nonce expires now).answer ∈
      [.ok true, .ok false, .error .unavailable]) :
    (carryOutWith report reserve store caller now (rawReservation config d now)).result =
      .ok (Check.verdictOf (storeChecks (signedNonce? config d) fun nonce =>
        (reserve store caller nonce expires now).answer)) := by
  unfold rawReservation planReservation storeChecks
  have hnonce : nonceOf config ⟨d.body, none, none, signedNonce? config d⟩ =
      signedNonce? config d := by
    cases hsigned : signedNonce? config d with
    | none => unfold nonceOf; split_ifs <;> rfl
    | some nonce => exact if_neg (signedNonce?_eq_some_iff.1 hsigned).1
  rw [hnonce]
  cases hsigned : signedNonce? config d with
  | none => rfl
  | some nonce =>
    rw [hexpiry]
    exact result_ofReservation nonce _ (hanswer nonce hsigned)

/-- A call that meets no text which cannot be encoded has the verdict of its checks. -/
theorem result_receiveOver {call : RawCall} (hskew : config.skew.micros ≤ Config.maxSkewMicros)
    (hnow : call.now.isAware = true) (hmeets : ∀ e, ¬MeetsUnencodable config call e) :
    ∃ bytes, call.body.encode = .ok bytes ∧
      ((∀ timestamp signature, HasHeaders config (call.delivery config bytes) timestamp signature →
          ∀ refusal, Timestamp.readRaw timestamp ≠ .error (.tooManyDigits refusal)) →
        expiry config call.now = .ok expires →
        (∀ nonce ∈ signedNonce? config (call.delivery config bytes),
          (reserve store call.caller nonce expires call.now).answer ∈
            [.ok true, .ok false, .error .unavailable]) →
        (receiveOver reserve config store call).result =
          .ok (Check.verdictOf (checks config (call.delivery config bytes) call.now fun nonce =>
            (reserve store call.caller nonce expires call.now).answer))) := by
  cases hbody : call.body.encode with
  | error e => exact absurd (.body hbody) (hmeets e)
  | ok bytes =>
    refine ⟨bytes, rfl, fun hdigits hexpiry hanswer => ?_⟩
    have hplan := planRaw_eq_firstFailure hskew hnow hdigits
      fun timestamp signature declared hheaders hread hwindow => by
        cases htexts : signedTexts config (call.delivery config bytes) timestamp with
        | error e => exact absurd (.signed hbody hheaders hread hwindow htexts) (hmeets e)
        | ok texts => exact ⟨texts, rfl⟩
    rw [receiveOver_eq, RawCall.plan_eq hbody, hplan, checks, Check.verdictOf,
      Check.firstFailure_append]
    cases Check.firstFailure (localChecks config (call.delivery config bytes) call.now) with
    | some check => rfl
    | none => exact result_carryOutWith_rawReservation hexpiry hanswer

/-- A call that meets a text which cannot be encoded has no verdict, and leaves the store. Any other
one has the verdict of its checks in their order, over any store that answers about the nonce that
counts or is unavailable, and is verified just if it passes all of them. -/
theorem result_eq_verdictOf (body : Payload RawText) (fields : List (RawText × RawText))
    (clock : DateTime) (given : Option DateTime) (hclock : given = none → clock.isAware = true)
    (hskew : config.skew.micros ≤ Config.maxSkewMicros)
    (hexpiry : expiry config (referenceTime clock given) = .ok expires)
    (hdigits : ∀ timestamp, rawHeader? config.names fields .timestamp = some (.ofString timestamp) →
      ∀ w ∈ Numeral.plain? (Text.strip timestamp.toList), w.digits.length ≤ Numeral.maxDigits)
    (hanswer : ∀ nonce, config.policy ≠ .disabled →
      rawHeader? config.names fields .nonce = some (.ofString nonce) →
      (reserve store caller nonce expires (referenceTime clock given)).answer ∈
        [.ok true, .ok false, .error .unavailable]) :
    let call : RawCall := ⟨caller, body, fields, referenceTime clock given⟩
    let outcome := receiveOver reserve config store call
    (∀ e, MeetsUnencodable config call e → outcome = ⟨.error (.unencodable e), store, [], []⟩) ∧
      ((∀ e, ¬MeetsUnencodable config call e) → ∃ bytes, body.encode = .ok bytes ∧
        let found : List Check := checks config
          ⟨bytes, rawHeader? config.names fields .timestamp,
            rawHeader? config.names fields .signature, rawHeader? config.names fields .nonce⟩
          (referenceTime clock given)
          fun nonce => (reserve store caller nonce expires (referenceTime clock given)).answer
        outcome.result = .ok (Check.verdictOf found) ∧
          (outcome.result = .ok .verified ↔ ∀ check ∈ found, check.passes = true)) := by
  intro call outcome
  have hnow : call.now.isAware = true := isAware_referenceTime hclock
  refine ⟨fun e hmeets => hmeets.receiveOver_eq hskew hnow reserve store, fun hmeets => ?_⟩
  obtain ⟨bytes, hbytes, hverdict⟩ := @result_receiveOver config Store reserve store expires call
    hskew hnow hmeets
  rw [RawCall.delivery_eq] at hverdict
  have hresult := hverdict ?_ hexpiry ?_
  · refine ⟨bytes, hbytes, hresult, ?_⟩
    rw [hresult, Except.ok.injEq, Check.verdictOf_eq_verified_iff]
  · rintro timestamp signature hheaders ⟨count⟩ hread
    obtain ⟨text, rfl, hoverlong⟩ := Timestamp.readRaw_eq_tooManyDigits_iff.1 hread
    obtain ⟨w, hw, rfl, hlong⟩ := Timestamp.isOverlong_iff.1 hoverlong
    have hshort := hdigits text hheaders.timestamp_eq w hw
    omega
  · intro nonce hnonce
    obtain ⟨hpolicy, hheader⟩ := signedNonce?_eq_some_iff.1 hnonce
    exact hanswer nonce hpolicy hheader

end Stores

/-! ### Samples -/

/-- The sample delivery with its timestamp under an alias and a blank nonce before this one. -/
def aliasedFields (nonce : RawText) : List (RawText × RawText) :=
  [(.ofString "x-timestamp", .ofString "300"), (.ofString "X-Swish-Nonce", .ofString " "),
    (.ofString "X-NONCE", nonce), (.ofString "X-Swish-Signature", .ofString sampleSignature)]

/-- It passes all checks but those of the store, which is unavailable. -/
theorem aliasedFields_unavailable :
    (receiveOver NonceStore.reserve sampleConfig
      ((NonceStore.remote sampleRemote).inMode .refusingConnections)
      ⟨.blocking, .raw [120, 10, 121], aliasedFields (.ofString "n"),
        referenceTime (sampleMinute 0) (some (sampleMinute 5))⟩).result =
      .ok (.rejected .storeUnavailable none) := by
  have hskew : sampleConfig.skew.micros ≤ Config.maxSkewMicros := by decide
  have hexpiry : expiry sampleConfig (sampleMinute 5) = .ok (sampleMinute 15) :=
    expiry_sampleMinute 5 (by decide)
  have hdigits : ∀ timestamp,
      rawHeader? sampleConfig.names (aliasedFields (.ofString "n")) .timestamp =
        some (.ofString timestamp) →
      ∀ w ∈ Numeral.plain? (Text.strip timestamp.toList), w.digits.length ≤ Numeral.maxDigits := by
    intro timestamp htimestamp
    have hfound : rawHeader? sampleConfig.names (aliasedFields (.ofString "n")) .timestamp =
        some (.ofString "300") := by
      decide +kernel
    rw [htimestamp, Option.some.injEq, RawText.ofString_inj] at hfound
    rw [hfound]
    decide +kernel
  have hanswer : ∀ nonce, sampleConfig.policy ≠ .disabled →
      rawHeader? sampleConfig.names (aliasedFields (.ofString "n")) .nonce =
        some (.ofString nonce) →
      (((NonceStore.remote sampleRemote).inMode .refusingConnections).reserve .blocking nonce
        (sampleMinute 15) (sampleMinute 5)).answer ∈
          [.ok true, .ok false, .error .unavailable] := by
    intro nonce _ hnonce
    have hfound : rawHeader? sampleConfig.names (aliasedFields (.ofString "n")) .nonce =
        some (.ofString "n") := by
      decide +kernel
    rw [hnonce, Option.some.injEq, RawText.ofString_inj] at hfound
    rw [hfound]
    decide +kernel
  have hencodable : ∀ e, ¬MeetsUnencodable sampleConfig
      ⟨.blocking, .raw [120, 10, 121], aliasedFields (.ofString "n"), sampleMinute 5⟩ e :=
    Call.not_meetsUnencodable_raw sampleConfig ⟨.blocking, [120, 10, 121],
      [("x-timestamp", "300"), ("X-Swish-Nonce", " "), ("X-NONCE", "n"),
        ("X-Swish-Signature", sampleSignature)], sampleMinute 5⟩
  obtain ⟨bytes, hbytes, hresult, -⟩ := (result_eq_verdictOf (.raw [120, 10, 121])
    (aliasedFields (.ofString "n")) (sampleMinute 0) (some (sampleMinute 5)) (fun _ => rfl) hskew
    hexpiry hdigits hanswer).2 hencodable
  cases hbytes
  rw [hresult]
  decide +kernel

/-- The lowest surrogate. -/
def lowestSurrogate : Surrogate := ⟨0xD800, by decide, by decide⟩

/-- With a surrogate for its nonce the sample delivery has no verdict, though all that a verdict
takes is there, and the store always answers. -/
theorem aliasedFields_unencodable :
    sampleConfig.skew.micros ≤ Config.maxSkewMicros ∧
      expiry sampleConfig (sampleMinute 5) = .ok (sampleMinute 15) ∧
      (∀ nonce, (NonceStore.reserve (.memory .empty) .blocking nonce (sampleMinute 15)
        (sampleMinute 5)).answer ∈ [.ok true, .ok false, .error .unavailable]) ∧
      rawHeader? sampleConfig.names (aliasedFields [.surrogate lowestSurrogate]) .timestamp =
        some (.ofString "300") ∧
      ¬∃ verdict, (receiveOver NonceStore.reserve sampleConfig (.memory .empty)
        ⟨.blocking, .raw [120, 10, 121], aliasedFields [.surrogate lowestSurrogate],
          referenceTime (sampleMinute 0) (some (sampleMinute 5))⟩).result = .ok verdict := by
  have hanswer (nonce : String) : (NonceStore.reserve (.memory .empty) .blocking nonce
      (sampleMinute 15) (sampleMinute 5)).answer ∈ [.ok true, .ok false, .error .unavailable] := by
    have hbool : ∀ granted : Bool, (.ok granted : Except StoreError Bool) ∈
        [.ok true, .ok false, .error .unavailable] := by
      decide
    unfold NonceStore.reserve
    dsimp only
    rw [MemoryStore.reserve_fst MemoryStore.allAware_empty rfl rfl]
    exact hbool _
  have hresult : (receiveOver NonceStore.reserve sampleConfig (.memory .empty)
      ⟨.blocking, .raw [120, 10, 121], aliasedFields [.surrogate lowestSurrogate],
        referenceTime (sampleMinute 0) (some (sampleMinute 5))⟩).result =
      .error (.unencodable ⟨0, lowestSurrogate, 0⟩) := by
    decide +kernel
  refine ⟨by decide, expiry_sampleMinute 5 (by decide), hanswer, by decide +kernel, ?_⟩
  rintro ⟨verdict, hverdict⟩
  cases hresult.symm.trans hverdict

end Verifier

end WebhookAuth
