import WebhookAuth.Proofs.Freshness

/-!
# Authentic deliveries

A delivery is authentic at a reference time if it passes every check that needs no store
(`Verifier.Authentic`). Only an authentic delivery is accepted or gets as far as a reservation
(`exists_authentic_of_plan`), and at other reference times only the window can turn it down
(`Authentic.plan_at`).
-/

namespace WebhookAuth.Verifier

variable {config : Config} {d : Delivery} {now : DateTime} {timestamp signature : String}
  {declared : DateTime}

/-- The bytes that the signature of a delivery must be for, if it has a timestamp. -/
def message? (config : Config) (d : Delivery) : Option Bytes :=
  d.timestamp.map fun timestamp => signedMessage config timestamp d

/-! ### Headers and declared time -/

section Headers

variable {Value : Type}

/-- The delivery has the headers that it must have, with this timestamp and signature. -/
structure HasHeaders (config : Config) (d : Delivery Value) (timestamp signature : Value) :
    Prop where
  timestamp_eq : d.timestamp = some timestamp
  signature_eq : d.signature = some signature
  nonce_isSome : config.policy = .required → d.nonce.isSome

/-- With its headers, a delivery is decided by what follows from its timestamp and signature. -/
theorem HasHeaders.planHeaders_eq {d : Delivery Value} {timestamp signature : Value}
    (h : HasHeaders config d timestamp signature) (next : Value → Value → Except Fault Plan) :
    planHeaders config d next = next timestamp signature := by
  have hnonce : ¬(d.nonce.isNone ∧ config.policy = .required) := by
    rintro ⟨hnone, hrequired⟩
    have hsome := h.nonce_isSome hrequired
    rw [Option.isNone_iff_eq_none] at hnone
    rw [hnone] at hsome
    cases hsome
  unfold planHeaders
  rw [h.timestamp_eq, h.signature_eq]
  dsimp only
  rw [if_neg hnonce]

theorem HasHeaders.of_not_missing {d : Delivery Value} {timestamp signature : Value}
    (htimestamp : d.timestamp = some timestamp) (hsignature : d.signature = some signature)
    (hthere : ¬(d.nonce.isNone ∧ config.policy = .required)) :
    HasHeaders config d timestamp signature := by
  refine ⟨htimestamp, hsignature, fun hrequired => ?_⟩
  rw [Option.isSome_iff_ne_none, ne_eq, ← Option.isNone_iff_eq_none]
  exact fun hnone => hthere ⟨hnone, hrequired⟩

/-- A delivery without its headers is rejected for one of them, whatever would follow. -/
theorem exists_hasHeaders_or_missing (config : Config) (d : Delivery Value) :
    (∃ timestamp signature, HasHeaders config d timestamp signature) ∨
      ∃ name, ∀ next, planHeaders config d next = rejectMissing name := by
  unfold planHeaders
  cases htimestamp : d.timestamp with
  | none => exact .inr ⟨_, fun _ => rfl⟩
  | some timestamp =>
    cases hsignature : d.signature with
    | none => exact .inr ⟨_, fun _ => rfl⟩
    | some signature =>
      dsimp only
      by_cases hmissing : d.nonce.isNone ∧ config.policy = .required
      · exact .inr ⟨_, fun _ => if_pos hmissing⟩
      · exact .inl ⟨timestamp, signature, .of_not_missing htimestamp hsignature hmissing⟩

/-- The declared time lies in the window, so that the delivery is decided by what follows; or it is
rejected for its time, or fails for it, whatever would follow. -/
theorem planWindow_cases (config : Config) (now : DateTime)
    (declared : Except TimestampError DateTime) :
    (∃ t, declared = .ok t ∧
        Timestamp.isWithinWindow t now config.skew config.maxAge = .ok true ∧
        ∀ next, planWindow config now declared next = next) ∨
      (∃ reason ∈ [.invalidTimestampFormat, .timestampOutOfWindow],
        ∀ next, planWindow config now declared next = .ok (.reject reason none)) ∨
      ∃ fault, (∀ next, planWindow config now declared next = .error fault) ∧
        ((∃ refusal, declared = .error (.tooManyDigits refusal) ∧
            fault = .tooManyDigits refusal) ∨
          ∃ t e, declared = .ok t ∧
            Timestamp.isWithinWindow t now config.skew config.maxAge = .error e ∧
            fault = .time e) := by
  unfold planWindow
  cases declared with
  | error e =>
    cases e with
    | tooManyDigits refusal =>
      exact .inr (.inr ⟨_, fun _ => rfl, .inl ⟨refusal, rfl, rfl⟩⟩)
    | outOfRange | unrecognized =>
      exact .inr (.inl ⟨.invalidTimestampFormat, by decide, fun _ => rfl⟩)
  | ok t =>
    dsimp only
    cases hwindow : Timestamp.isWithinWindow t now config.skew config.maxAge with
    | error e => exact .inr (.inr ⟨_, fun _ => rfl, .inr ⟨t, e, rfl, hwindow, rfl⟩⟩)
    | ok inside =>
      cases inside with
      | false => exact .inr (.inl ⟨.timestampOutOfWindow, by decide, fun _ => rfl⟩)
      | true => exact .inl ⟨t, rfl, hwindow, fun _ => rfl⟩

end Headers

theorem HasHeaders.plan_eq (h : HasHeaders config d timestamp signature) (now : DateTime) :
    plan config d now = planDated config d timestamp signature now :=
  h.planHeaders_eq _

/-- The delivery has its headers, its timestamp reads as a time in the window, and its signature is
that of its message. -/
structure Authentic (config : Config) (d : Delivery) (now : DateTime)
    (timestamp signature : String) (declared : DateTime) : Prop where
  timestamp_eq : d.timestamp = some timestamp
  signature_eq : d.signature = some signature
  nonce_isSome : config.policy = .required → d.nonce.isSome
  read_eq : Timestamp.read timestamp = .ok declared
  window_eq : Timestamp.isWithinWindow declared now config.skew config.maxAge = .ok true
  valid : Signature.isValid config.secret (signedMessage config timestamp d) signature = .ok true

namespace Authentic

theorem isAware_now (h : Authentic config d now timestamp signature declared) :
    now.isAware = true :=
  (Config.of_isWithinWindow h.window_eq).1.trans (Timestamp.isAware_of_read h.read_eq)

theorem skew_le (h : Authentic config d now timestamp signature declared) :
    config.skew.micros ≤ Config.maxSkewMicros :=
  (Config.of_isWithinWindow h.window_eq).2

theorem inWindow (h : Authentic config d now timestamp signature declared) :
    config.InWindow declared now := by
  have hwindow := h.window_eq
  rw [Config.isWithinWindow_eq h.skew_le (Timestamp.isAware_of_read h.read_eq) h.isAware_now]
    at hwindow
  exact of_decide_eq_true (Except.ok.inj hwindow)

theorem hasHeaders (h : Authentic config d now timestamp signature declared) :
    HasHeaders config d timestamp signature :=
  ⟨h.timestamp_eq, h.signature_eq, h.nonce_isSome⟩

/-- What is decided at any reference time about a delivery that was authentic at some time. -/
theorem plan_at (h : Authentic config d now timestamp signature declared) {later : DateTime}
    (hlater : later.isAware = true) :
    plan config d later =
      if config.InWindow declared later then planReservation config d later
      else .ok (.reject .timestampOutOfWindow none) := by
  rw [h.hasHeaders.plan_eq, planDated, h.read_eq]
  dsimp only [planWindow]
  rw [Config.isWithinWindow_eq h.skew_le (Timestamp.isAware_of_read h.read_eq) hlater]
  split_ifs with hin
  · rw [decide_eq_true hin]
    dsimp only
    rw [planSigned, h.valid]
  · rw [decide_eq_false hin]

theorem plan_eq (h : Authentic config d now timestamp signature declared) :
    plan config d now = planReservation config d now := by
  rw [h.plan_at h.isAware_now, if_pos h.inWindow]

end Authentic

/-- A delivery that is not rejected is authentic. -/
theorem exists_authentic_of_plan {p : Plan} (h : plan config d now = .ok p)
    (hp : ∀ reason detail, p ≠ .reject reason detail) :
    ∃ timestamp signature declared, Authentic config d now timestamp signature declared := by
  have not_rejected {reason : Reason} {detail : Option String}
      (hreject : (.ok (.reject reason detail) : Except Fault Plan) = .ok p) : False :=
    hp reason detail (Except.ok.inj hreject).symm
  -- one check after another: every way out but the last is a rejection
  rcases exists_hasHeaders_or_missing config d with ⟨timestamp, signature, hheaders⟩ |
    ⟨name, hmissing⟩
  swap
  · rw [plan, hmissing] at h
    exact (not_rejected h).elim
  rw [hheaders.plan_eq, planDated] at h
  rcases planWindow_cases config now (Timestamp.read timestamp) with
    ⟨declared, hread, hwindow, hnext⟩ | ⟨reason, -, hreject⟩ | ⟨fault, hfault, -⟩
  · rw [hnext] at h
    unfold planSigned at h
    split at h
    · exact (not_rejected h).elim
    · exact (not_rejected h).elim
    rename_i hvalid
    exact ⟨timestamp, signature, declared, hheaders.timestamp_eq, hheaders.signature_eq,
      hheaders.nonce_isSome, hread, hwindow, hvalid⟩
  · rw [hreject] at h
    exact (not_rejected h).elim
  · rw [hfault] at h
    cases h

/-! ### What follows for an authentic delivery -/

theorem planReservation_eq_accept_iff :
    planReservation config d now = .ok .accept ↔ nonceOf config d = none := by
  unfold planReservation
  cases nonceOf config d with
  | none => simp
  | some nonce =>
    dsimp only
    cases expiry config now <;> simp

theorem planReservation_eq_reserve_iff {nonce : String} {expires : DateTime} :
    planReservation config d now = .ok (.reserve nonce expires) ↔
      nonceOf config d = some nonce ∧ expiry config now = .ok expires := by
  unfold planReservation
  cases nonceOf config d with
  | none => simp
  | some nonce =>
    dsimp only
    cases expiry config now <;> simp

/-- What follows for an authentic delivery fails only for the expiry of its nonce. -/
theorem planReservation_eq_error_iff {fault : Fault} :
    planReservation config d now = .error fault ↔
      ∃ nonce e, nonceOf config d = some nonce ∧ expiry config now = .error e ∧
        fault = .time e := by
  unfold planReservation
  cases nonceOf config d with
  | none => simp
  | some nonce =>
    dsimp only
    cases expiry config now <;> simp [eq_comm]

/-- The check of the signature does not fail by itself. -/
theorem planSigned_eq_error_iff {fault : Fault} :
    planSigned config d timestamp signature now = .error fault ↔
      Signature.isValid config.secret (signedMessage config timestamp d) signature = .ok true ∧
        planReservation config d now = .error fault := by
  unfold planSigned
  cases Signature.isValid config.secret (signedMessage config timestamp d) signature with
  | error e => simp
  | ok valid => cases valid <;> simp

/-- A nonce is reserved for an authentic delivery, from the reference time on. -/
theorem of_plan_eq_reserve {nonce : String} {expires : DateTime}
    (h : plan config d now = .ok (.reserve nonce expires)) :
    (∃ timestamp signature declared, Authentic config d now timestamp signature declared) ∧
      nonceOf config d = some nonce ∧ expiry config now = .ok expires := by
  obtain ⟨timestamp, signature, declared, hauth⟩ :=
    exists_authentic_of_plan h fun _ _ hreject => by cases hreject
  rw [hauth.plan_eq, planReservation_eq_reserve_iff] at h
  exact ⟨⟨timestamp, signature, declared, hauth⟩, h⟩

/-- Where a nonce is required it is the one of the nonce header, and nothing is accepted without. -/
theorem nonceOf_of_required (hpolicy : config.policy = .required) : nonceOf config d = d.nonce := by
  rw [nonceOf, hpolicy, if_neg (by decide)]

theorem plan_ne_accept (hpolicy : config.policy = .required) : plan config d now ≠ .ok .accept := by
  intro h
  obtain ⟨timestamp, signature, declared, hauth⟩ :=
    exists_authentic_of_plan h fun _ _ hreject => by cases hreject
  rw [hauth.plan_eq, planReservation_eq_accept_iff, nonceOf_of_required hpolicy] at h
  have hsome := hauth.nonce_isSome hpolicy
  rw [h] at hsome
  cases hsome

end WebhookAuth.Verifier
