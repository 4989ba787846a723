import WebhookAuth.Proofs.Batch
import WebhookAuth.Proofs.TagText
import WebhookAuth.SignedHeaders

/-!
# Signed deliveries

A verifier with the sender's secret and header names finds in signed fields what the sender put
there, as long as no name is looked for in two roles (`SignedHeaders.delivery_of_sign`). Within the
window the delivery is authentic (`SignedHeaders.authentic_of_sign`). With a nonce that is not held
it is verified once, and is a replay after that; without one it is verified every time
(`verify_signed`).
-/

namespace WebhookAuth

open Verifier

namespace HeaderNames

variable {names : HeaderNames} {role role' : Role} {name : String}

/-- No name is looked for in two roles. -/
def Separate (names : HeaderNames) : Prop :=
  ∀ role role', role ≠ role' → ∀ name ∈ names.lookupOrder role, name ∉ names.lookupOrder role'

/-- The canonical name of a role is looked for first. -/
theorem exists_lookupOrder (names : HeaderNames) (role : Role) :
    ∃ aliases, names.lookupOrder role = Text.lower (names.canonical role) :: aliases := by
  have horder := names.lookupOrder?_canonical role
  unfold lookupOrder? at horder
  obtain ⟨aliases, -, hmap⟩ := Option.map_eq_some_iff.1 horder
  exact ⟨aliases.map Text.lower, hmap.symm⟩

theorem lower_canonical_mem (names : HeaderNames) (role : Role) :
    Text.lower (names.canonical role) ∈ names.lookupOrder role := by
  obtain ⟨aliases, horder⟩ := names.exists_lookupOrder role
  rw [horder]
  exact List.mem_cons_self

/-- A canonical name is not looked for in another role. -/
theorem Separate.lower_canonical_ne (h : names.Separate) (hrole : role' ≠ role)
    (hname : name ∈ names.lookupOrder role) : Text.lower (names.canonical role') ≠ name := by
  rintro rfl
  exact h role' role hrole _ (names.lower_canonical_mem role') hname

theorem Separate.canonical_ne (h : names.Separate) (hrole : role' ≠ role) :
    names.canonical role' ≠ names.canonical role := fun heq =>
  h.lower_canonical_ne hrole (names.lower_canonical_mem role) (congrArg Text.lower heq)

end HeaderNames

/-- The value of a timestamp header that reads as a time is not blank. -/
theorem Timestamp.isBlankText_of_read {value : String} {declared : DateTime}
    (h : read value = .ok declared) : Text.isBlankText value = false := by
  rw [← Bool.not_eq_true]
  intro hblank
  have hstrip : Text.strip value.toList = [] := by
    have hfront : value.toList.dropWhile Text.isBlank = [] :=
      List.dropWhile_eq_nil_iff.2 (List.all_eq_true.1 hblank)
    unfold Text.strip Text.trimBy
    rw [hfront]
    rfl
  have hnumber : Numeral.plain? [] = none := by decide
  have hiso : ofIso [] = .error .unrecognized := by decide
  unfold read at h
  rw [hstrip] at h
  dsimp only at h
  rw [hnumber] at h
  cases hiso.symm.trans h

namespace SignedHeaders

variable {names : HeaderNames} {role : Role} {name nonce timestamp : String} {value : Role → String}
  {secret body : Bytes} {time declared now : DateTime} {style : TimestampStyle} {fields : Fields}
  {config : Config}

/-- The fields of the three headers with these values. -/
def headerFields (names : HeaderNames) (value : Role → String) : Fields :=
  [Role.timestamp, .nonce, .signature].map fun role => (names.canonical role, value role)

/-- What the three headers of a signed body say. -/
def valueOf (secret body : Bytes) (timestamp nonce : String) : Role → String
  | .timestamp => timestamp
  | .nonce => nonce
  | .signature =>
    Signature.encode (Signature.tag secret (Signature.canonicalMessage timestamp (some nonce) body))

/-- Under the names of a role only its own header is found. -/
theorem firstValue?_headerFields (h : names.Separate) (hname : name ∈ names.lookupOrder role) :
    firstValue? (headerFields names value) name =
      if Text.lower (names.canonical role) = name then some (value role) else none := by
  have hown : (fun role' => decide (Text.lower (names.canonical role') = name)) =
      fun role' => decide (role' = role ∧ Text.lower (names.canonical role) = name) := by
    funext role'
    by_cases hrole : role' = role
    · simp [hrole]
    · rw [decide_eq_false (h.lower_canonical_ne hrole hname), decide_eq_false fun h => hrole h.1]
  unfold firstValue? headerFields
  rw [List.find?_map, Option.map_map]
  show Option.map value ([Role.timestamp, .nonce, .signature].find?
    fun role' => decide (Text.lower (names.canonical role') = name)) = _
  rw [hown]
  by_cases hfirst : Text.lower (names.canonical role) = name
  · rw [if_pos hfirst]
    cases role <;> simp [hfirst]
  · rw [if_neg hfirst]
    simp [hfirst]

/-- The value of each header is found again, unless it is blank. -/
theorem header?_headerFields (h : names.Separate) (role : Role) :
    header? names (headerFields names value) role =
      if Text.isBlankText (value role) then none else some (value role) := by
  by_cases hblank : Text.isBlankText (value role)
  · rw [if_pos hblank, header?_eq_none_iff]
    intro name hname v hv
    rw [firstValue?_headerFields h hname] at hv
    split_ifs at hv
    · cases hv
      exact hblank
    · cases hv
  · obtain ⟨aliases, horder⟩ := names.exists_lookupOrder role
    have hfirst : firstValue? (headerFields names value) (Text.lower (names.canonical role)) =
        some (value role) := by
      rw [firstValue?_headerFields h (names.lower_canonical_mem role), if_pos rfl]
    rw [if_neg hblank, header?_eq_some_iff]
    exact ⟨[], _, aliases, horder, hfirst, Bool.not_eq_true _ ▸ hblank, by simp⟩

/-- Signed fields are those of the three headers. -/
theorem fields_of_sign (h : names.Separate)
    (hsign : sign secret body time nonce names style = .ok fields) :
    ∃ timestamp, timestampText style time = .ok timestamp ∧
      fields = headerFields names (valueOf secret body timestamp nonce) := by
  have hne : ∀ role role', role' ≠ role → names.canonical role' ≠ names.canonical role :=
    fun role role' hrole => h.canonical_ne hrole
  have hnonce : names.timestamp ≠ names.nonce := hne .nonce .timestamp (by decide)
  have hsignature : names.timestamp ≠ names.signature := hne .signature .timestamp (by decide)
  have hlast : names.nonce ≠ names.signature := hne .signature .nonce (by decide)
  unfold sign at hsign
  cases htext : timestampText style time with
  | error e =>
    rw [htext] at hsign
    cases hsign
  | ok timestamp =>
    rw [htext] at hsign
    cases hsign
    refine ⟨timestamp, rfl, ?_⟩
    simp [Fields.ofAssignments, Fields.set, headerFields, valueOf, HeaderNames.canonical, hnonce,
      hsignature, hlast]

section Sent

variable (hnames : names.Separate)
  (hsign : sign secret body time nonce names style = .ok fields)
  (htimestamp : fields.get? names.timestamp = some timestamp)

include hnames hsign htimestamp

/-- Signed fields with this timestamp. -/
theorem fields_eq_of_sign : fields = headerFields names (valueOf secret body timestamp nonce) := by
  obtain ⟨written, -, rfl⟩ := fields_of_sign hnames hsign
  have hfirst : (headerFields names (valueOf secret body written nonce)).get? names.timestamp =
      some written := by
    rw [headerFields, List.map_cons, Fields.get?_cons]
    exact if_pos rfl
  cases hfirst.symm.trans htimestamp
  rfl

/-- What is received of a signed body with a timestamp that reads as a time. -/
theorem delivery_of_sign (hread : Timestamp.read timestamp = .ok declared) :
    Delivery.ofFields names body fields =
      ⟨body, some timestamp, some (valueOf secret body timestamp nonce .signature),
        if Text.isBlankText nonce then none else some nonce⟩ := by
  have hdated : Text.isBlankText (valueOf secret body timestamp nonce .timestamp) = false :=
    Timestamp.isBlankText_of_read hread
  have htag : Text.isBlankText (valueOf secret body timestamp nonce .signature) = false := by
    refine Signature.isBlankText_encode ?_
    unfold Signature.tag
    rw [Hmac.length_tag]
    decide
  rw [Delivery.ofFields_eq, fields_eq_of_sign hnames hsign htimestamp,
    header?_headerFields hnames, header?_headerFields hnames, header?_headerFields hnames, hdated,
    htag]
  rfl

end Sent

/-- A signed delivery is authentic within the window, if the nonce that counts is the signed one. -/
theorem authentic_of_sign (hnames : config.names.Separate)
    (hsign : sign config.secret body time nonce config.names style = .ok fields)
    (htimestamp : fields.get? config.names.timestamp = some timestamp)
    (hread : Timestamp.read timestamp = .ok declared)
    (hwindow : Timestamp.isWithinWindow declared now config.skew config.maxAge = .ok true)
    (hcounts : (nonceOf config (Delivery.ofFields config.names body fields)).getD "" = nonce)
    (hrequired : config.policy = .required → Text.isBlankText nonce = false) :
    Authentic config (Delivery.ofFields config.names body fields) now timestamp
      (valueOf config.secret body timestamp nonce .signature) declared := by
  have hdelivery := delivery_of_sign hnames hsign htimestamp hread
  refine ⟨by rw [hdelivery], by rw [hdelivery], fun hpolicy => ?_, hread, hwindow, ?_⟩
  · rw [hdelivery, hrequired hpolicy]
    rfl
  · have hmessage : signedMessage config timestamp (Delivery.ofFields config.names body fields) =
        Signature.canonicalMessage timestamp (some nonce) body := by
      unfold signedMessage Signature.canonicalMessage
      rw [hcounts, hdelivery]
      rfl
    rw [hmessage]
    exact Signature.isValid_encode_tag _ _

end SignedHeaders

namespace Verifier

variable {config : Config} {nonce timestamp : String} {time declared expires : DateTime}
  {style : TimestampStyle} {fields : Fields}

/-- An authentic delivery without a nonce that counts is verified, and the store is not reached. -/
theorem Call.IsAuthentic.verify_of_no_nonce {call : Call} (h : call.IsAuthentic config)
    (hnonce : nonceOf config (call.delivery config) = none) (s : NonceStore) :
    verify config s call = ⟨.ok .verified, s, [], []⟩ := by
  obtain ⟨_, _, _, hauth⟩ := h
  unfold verify verifyOver
  dsimp only
  rw [hauth.plan_eq, planReservation_eq_accept_iff.2 hnonce]
  rfl

/-- A call that asks for a nonce that is not held is verified, and is a replay the next time. -/
theorem Call.Asks.verified_once {call : Call} {s : NonceStore} (h : call.Asks config nonce expires)
    (hs : s.Answers call.caller) (hfree : ¬s.Holds nonce call.now) :
    (verify config s call).result = .ok .verified ∧
      (verify config (verify config s call).store call).result =
        .ok (.rejected .replayDetected none) := by
  have hheld : (verify config s call).store.Holds nonce call.now :=
    (h.holds_verify_iff hs).2 (.inr rfl)
  have hlater : (verify config s call).store.Answers call.caller := answers_verify hs config call
  rw [(h.verify_of_answers hs).1, (h.verify_of_answers hlater).1, if_neg hfree, if_pos hheld]
  exact ⟨rfl, rfl⟩

/-- A signed body is verified in the window of its timestamp by a verifier with the secret and the
header names of the sender. With a nonce that counts and is not held among comparable expiries it is
verified once, and is a replay after that; with the empty nonce, where none is required, it is
verified whatever the store holds, which stays as it is. -/
theorem verify_signed (secret body : Payload) (s : MemoryStore) (caller : Caller)
    (clock : DateTime) (given : Option DateTime) (hsecret : config.secret = secret.bytes)
    (hnames : config.names.Separate)
    (hsign : SignedHeaders.sign secret.bytes body.bytes time nonce config.names style = .ok fields)
    (htimestamp : fields.get? config.names.timestamp = some timestamp)
    (hread : Timestamp.read timestamp = .ok declared)
    (hclock : given = none → clock.isAware = true)
    (hskew : config.skew.micros ≤ Config.maxSkewMicros)
    (hwindow : config.InWindow declared (referenceTime clock given)) :
    let call : Call := ⟨caller, body.bytes, fields, referenceTime clock given⟩
    (config.policy ≠ .disabled → Text.isBlankText nonce = false →
        (∃ expires, expiry config call.now = .ok expires) → s.AllAware →
        ¬s.Holds nonce call.now →
        (verify config (.memory s) call).result = .ok .verified ∧
          (verify config (verify config (.memory s) call).store call).result =
            .ok (.rejected .replayDetected none)) ∧
      (config.policy ≠ .required → nonce = "" →
        (verify config (.memory s) call).result = .ok .verified ∧
          (verify config (.memory s) call).store = .memory s) := by
  intro call
  rw [← hsecret] at hsign
  have hdelivery : call.delivery config = _ :=
    SignedHeaders.delivery_of_sign hnames hsign htimestamp hread
  have hinside : Timestamp.isWithinWindow declared call.now config.skew config.maxAge =
      .ok true := by
    rw [Config.isWithinWindow_eq hskew (Timestamp.isAware_of_read hread)
      (isAware_referenceTime hclock), decide_eq_true hwindow]
  have hauth : (nonceOf config (call.delivery config)).getD "" = nonce →
      (config.policy = .required → Text.isBlankText nonce = false) → call.IsAuthentic config :=
    fun hcounts hrequired =>
      ⟨_, _, _, SignedHeaders.authentic_of_sign hnames hsign htimestamp hread hinside hcounts
        hrequired⟩
  constructor
  · rintro hpolicy hblank ⟨expires, hexpiry⟩ hs hfree
    have hnonce : (call.delivery config).nonce = some nonce := by
      rw [hdelivery, hblank]
      rfl
    have hcounts : nonceOf config (call.delivery config) = some nonce :=
      nonceOf_eq_some_iff.2 ⟨hpolicy, hnonce⟩
    have hask : call.Asks config nonce expires :=
      (hauth (by rw [hcounts]; rfl) fun _ => hblank).asks hpolicy hnonce hexpiry
    exact hask.verified_once hs (NonceStore.holds_memory.not.2 hfree)
  · rintro hpolicy rfl
    have hnonce : nonceOf config (call.delivery config) = none := by
      unfold nonceOf
      rw [hdelivery, Text.isBlankText_empty]
      exact ite_self _
    have hcall : call.IsAuthentic config :=
      hauth (by rw [hnonce]; rfl) fun hrequired => absurd hrequired hpolicy
    rw [hcall.verify_of_no_nonce hnonce]
    exact ⟨rfl, rfl⟩

theorem sign_sampleMessage :
    SignedHeaders.sign sampleConfig.secret [120, 10, 121] (sampleMinute 5) "n" sampleConfig.names
      .unixSeconds = .ok (sampleCall "n" [120, 10, 121] 5).fields := by
  decide +kernel

theorem separate_sampleNames : sampleConfig.names.Separate := by
  intro role role' hrole
  cases role <;> cases role' <;> first | exact absurd rfl hrole | decide +kernel

/-- The sample delivery, signed in the fifth minute, is verified once in the sixth. -/
theorem sampleMessage_verified_once :
    sampleConfig.names.Separate ∧
      SignedHeaders.sign sampleConfig.secret [120, 10, 121] (sampleMinute 5) "n"
        sampleConfig.names .unixSeconds = .ok (sampleCall "n" [120, 10, 121] 6).fields ∧
      Timestamp.read "300" = .ok (sampleMinute 5) ∧
      sampleConfig.InWindow (sampleMinute 5) (sampleMinute 6) ∧
      (verify sampleConfig (.memory .empty) (sampleCall "n" [120, 10, 121] 6)).result =
        .ok .verified ∧
      (verify sampleConfig (verify sampleConfig (.memory .empty)
        (sampleCall "n" [120, 10, 121] 6)).store (sampleCall "n" [120, 10, 121] 6)).result =
          .ok (.rejected .replayDetected none) := by
  have hread : Timestamp.read "300" = .ok (sampleMinute 5) := by decide +kernel
  have hwindow : sampleConfig.InWindow (sampleMinute 5) (sampleMinute 6) := by decide
  obtain ⟨hfirst, hsecond⟩ := (verify_signed (.raw [107]) (.raw [120, 10, 121]) .empty .blocking
    (sampleMinute 6) (some (sampleMinute 6)) (by rfl) separate_sampleNames sign_sampleMessage rfl
    hread (by simp) (by decide) hwindow).1 (by decide) (by decide)
    ⟨_, expiry_sampleMinute 6 (by decide)⟩ MemoryStore.allAware_empty MemoryStore.not_holds_empty
  exact ⟨separate_sampleNames, sign_sampleMessage, hread, hwindow, hfirst, hsecond⟩

/-- An expiry that cannot be compared keeps the signed delivery from a verdict. -/
theorem not_verify_signed :
    ¬∀ (config : Config) (s : MemoryStore) (secret body : Payload) (caller : Caller)
        (clock : DateTime) (given : Option DateTime) (time : DateTime) (nonce timestamp : String)
        (style : TimestampStyle) (fields : Fields) (declared expires : DateTime),
      config.secret = secret.bytes → config.names.Separate →
      SignedHeaders.sign secret.bytes body.bytes time nonce config.names style = .ok fields →
      fields.get? config.names.timestamp = some timestamp →
      Timestamp.read timestamp = .ok declared → (given = none → clock.isAware = true) →
      config.skew.micros ≤ Config.maxSkewMicros →
      config.InWindow declared (referenceTime clock given) →
      config.policy ≠ .disabled → Text.isBlankText nonce = false →
      expiry config (referenceTime clock given) = .ok expires →
      ¬s.Holds nonce (referenceTime clock given) →
      (verify config (.memory s)
        ⟨caller, body.bytes, fields, referenceTime clock given⟩).result = .ok .verified := by
  intro h
  have hask : (sampleCall "n" [120, 10, 121] 5).Asks sampleConfig "n" (sampleMinute 15) :=
    sampleCall_asks_n (by decide)
  have hresult : (verify sampleConfig (.memory sampleStray)
      (sampleCall "n" [120, 10, 121] 5)).result = .error (.store (.time .mixedComparison)) := by
    rw [hask.verify_eq]
    rfl
  have hverified := h sampleConfig sampleStray (.raw [107]) (.raw [120, 10, 121]) .blocking
    (sampleMinute 5) (some (sampleMinute 5)) (sampleMinute 5) "n" "300" .unixSeconds
    (sampleCall "n" [120, 10, 121] 5).fields (sampleMinute 5) (sampleMinute 15) rfl
    separate_sampleNames sign_sampleMessage rfl (by decide +kernel) (by simp) (by decide)
    (by decide) (by decide) (by decide) (expiry_sampleMinute 5 (by decide)) (by decide)
  cases hresult.symm.trans hverified

end Verifier

end WebhookAuth
