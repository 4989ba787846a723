import WebhookAuth.Proofs.Batch
import WebhookAuth.Proofs.Callers
import WebhookAuth.Proofs.Overlong

/-!
# Calls without a verdict

A call has no verdict for one of four reasons: its timestamp is a number with too many digits, the
skew is too long to be turned around, its nonce has no expiry, or the store fails otherwise than by
being unavailable (`Fails`, `result_eq_error_iff`, `hasVerdict_iff`). A store that responds fails in
no other way (`NonceStore.Responds.eq_unavailable`).
-/

namespace WebhookAuth

variable {nonce : String} {expires now : DateTime} {caller : Caller}

/-- The ways to behave in which a client gives an answer or raises an error of its own. -/
def ServerMode.orderly : List ServerMode :=
  [.answering, .refusingConnections, .answeringLate, .answeringErrors]

theorem RemoteStore.giveUp_of_ne (h : caller ≠ .cancelled) :
    giveUp caller = .error .unavailable := by
  cases caller with
  | blocking | awaiting => rfl
  | cancelled => exact absurd rfl h

theorem RemoteStore.eq_unavailable {s : RemoteStore} {e : StoreError} (hclients : s.HasClients)
    (hmode : s.server.mode ∈ ServerMode.orderly)
    (hwaits : s.givesNoTime caller = true → caller ≠ .cancelled)
    (hblank : Text.isBlankText nonce = false)
    (haware : expires.isAware = now.isAware)
    (he : (s.reserve caller nonce expires now).answer = .error e) : e = .unavailable := by
  obtain ⟨ttl, hcommand⟩ := command_eq (s := s) hblank haware
  unfold reserve reserveVia at he
  rw [if_neg (hclients.not_isNone_clientOf caller), hcommand] at he
  dsimp only at he
  by_cases htime : s.givesNoTime caller = true
  · rw [if_pos htime, giveUp_of_ne (hwaits htime)] at he
    cases he
    rfl
  rw [if_neg htime] at he
  dsimp only at he
  unfold Server.reply at he
  cases hserver : s.server.mode with
  | answering =>
    rw [hserver] at he
    dsimp only at he
    rcases setIfAbsent_cases s.server ⟨s.key nonce, now.iso, ttl⟩ with ⟨hset, -⟩ | ⟨hset, -⟩
    · rw [hset] at he
      cases he
    · rw [hset] at he
      cases he
  | refusingConnections | answeringLate | answeringErrors =>
    rw [hserver] at he
    cases he
    rfl
  | timingOut | breakingPipes | silent =>
    rw [hserver] at hmode
    exact absurd hmode (by decide)

namespace NonceStore

variable {s : NonceStore}

/-- The store answers the caller, or is unavailable: a local store can compare its expiries; a
remote one has both clients, they raise no errors but their own, and no one who has no time to wait
is cancelled. -/
def Responds : NonceStore → Caller → Prop
  | memory s, _ => s.AllAware
  | remote s, caller => s.HasClients ∧ s.server.mode ∈ ServerMode.orderly ∧
      (s.givesNoTime caller = true → caller ≠ .cancelled)

theorem Responds.eq_unavailable {e : StoreError} (h : s.Responds caller)
    (hblank : Text.isBlankText nonce = false) (haware : expires.isAware = true)
    (hnow : now.isAware = true) (he : (s.reserve caller nonce expires now).answer = .error e) :
    e = .unavailable := by
  cases s with
  | memory s =>
    unfold reserve at he
    dsimp only at he
    rw [MemoryStore.reserve_fst h haware hnow] at he
    cases he
  | remote s =>
    exact RemoteStore.eq_unavailable h.1 h.2.1 h.2.2 hblank (haware.trans hnow.symm) he

/-- A store that responds answers, or is unavailable. -/
theorem Responds.answer_mem (h : s.Responds caller) (hblank : Text.isBlankText nonce = false)
    (haware : expires.isAware = true) (hnow : now.isAware = true) :
    (s.reserve caller nonce expires now).answer ∈ [.ok true, .ok false, .error .unavailable] := by
  cases hanswer : (s.reserve caller nonce expires now).answer with
  | error e =>
    rw [h.eq_unavailable hblank haware hnow hanswer]
    simp
  | ok granted => cases granted <;> simp

end NonceStore

namespace Verifier

variable {config : Config} {d : Delivery} {call : Call} {s : NonceStore} {fault : Fault} {count : ℕ}

/-! ### Faults before the store is reached -/

/-- The checks that need no store come to no decision, with this fault. -/
inductive Fails (config : Config) (d : Delivery) (now : DateTime) : Fault → Prop
  /-- The timestamp is a number with too many digits. -/
  | digits {timestamp signature : String} {count : ℕ}
      (headers : HasHeaders config d timestamp signature)
      (overlong : Timestamp.IsOverlong timestamp count) :
      Fails config d now (.tooManyDigits ⟨count⟩)
  /-- The skew is too long to be turned around. -/
  | skew {timestamp signature : String} {declared : DateTime}
      (headers : HasHeaders config d timestamp signature)
      (read : Timestamp.read timestamp = .ok declared)
      (tooLong : Config.maxSkewMicros < config.skew.micros) :
      Fails config d now (.time (.durationOutOfRange (-1000000000)))
  /-- The nonce of an authentic delivery has no expiry. -/
  | expiry {timestamp signature nonce : String} {declared : DateTime} {e : TimeError}
      (authentic : Authentic config d now timestamp signature declared)
      (nonce_eq : nonceOf config d = some nonce)
      (no_expiry : Verifier.expiry config now = .error e) :
      Fails config d now (.time e)

theorem Fails.of_planDated {timestamp signature : String} (hnow : now.isAware = true)
    (hheaders : HasHeaders config d timestamp signature)
    (h : planDated config d timestamp signature now = .error fault) :
    Fails config d now fault := by
  unfold planDated at h
  rcases planWindow_cases config now (Timestamp.read timestamp) with
    ⟨declared, hread, hwindow, hnext⟩ | ⟨reason, -, hreject⟩ | ⟨found, hfound, hwhy⟩
  · rw [hnext] at h
    obtain ⟨hvalid, hreservation⟩ := planSigned_eq_error_iff.1 h
    obtain ⟨nonce, e, hnonce, hexpiry, rfl⟩ := planReservation_eq_error_iff.1 hreservation
    have hauth : Authentic config d now timestamp signature declared :=
      ⟨hheaders.timestamp_eq, hheaders.signature_eq, hheaders.nonce_isSome, hread, hwindow, hvalid⟩
    exact .expiry hauth hnonce hexpiry
  · rw [hreject] at h
    cases h
  · rw [hfound] at h
    cases h
    rcases hwhy with ⟨refusal, hread, rfl⟩ | ⟨declared, e, hread, hwindow, rfl⟩
    · exact .digits hheaders (Timestamp.read_eq_tooManyDigits_iff.1 hread)
    · have haware := Timestamp.isAware_of_read hread
      by_cases hskew : config.skew.micros ≤ Config.maxSkewMicros
      · rw [Config.isWithinWindow_eq hskew haware hnow] at hwindow
        cases hwindow
      · rw [Config.isWithinWindow_eq_error (not_le.1 hskew) haware hnow] at hwindow
        cases hwindow
        exact .skew hheaders hread (not_le.1 hskew)

/-- The checks that need no store come to no decision for these reasons only. -/
theorem plan_eq_error_iff (hnow : now.isAware = true) :
    plan config d now = .error fault ↔ Fails config d now fault := by
  constructor
  · intro h
    rcases exists_hasHeaders_or_missing config d with ⟨timestamp, signature, hheaders⟩ |
      ⟨name, hmissing⟩
    · rw [hheaders.plan_eq] at h
      exact .of_planDated hnow hheaders h
    · rw [plan, hmissing] at h
      cases h
  · rintro (⟨hheaders, hoverlong⟩ | ⟨hheaders, hread, hskew⟩ | ⟨hauth, hnonce, hexpiry⟩)
    · rw [hheaders.plan_eq, planDated, Timestamp.read_eq_tooManyDigits_iff.2 hoverlong]
      rfl
    · rw [hheaders.plan_eq, planDated, hread]
      dsimp only [planWindow]
      rw [Config.isWithinWindow_eq_error hskew (Timestamp.isAware_of_read hread) hnow]
    · rw [hauth.plan_eq, planReservation_eq_error_iff]
      exact ⟨_, _, hnonce, hexpiry, rfl⟩

/-- A call that fails before the store is reached leaves the store as it is. -/
theorem Fails.verify_eq (h : Fails config (call.delivery config) call.now fault)
    (hnow : call.now.isAware = true) (s : NonceStore) :
    verify config s call = ⟨.error fault, s, [], []⟩ := by
  unfold verify verifyOver
  dsimp only
  rw [(plan_eq_error_iff hnow).2 h]
  rfl

/-! ### Faults of the store -/

/-- A call has no verdict if it fails before the store is reached, or if the store fails otherwise
than by being unavailable. -/
theorem result_eq_error_iff (hnow : call.now.isAware = true) :
    (verify config s call).result = .error fault ↔
      Fails config (call.delivery config) call.now fault ∨
        ∃ nonce expires e, call.Asks config nonce expires ∧
          (s.reserve call.caller nonce expires call.now).answer = .error e ∧ e ≠ .unavailable ∧
          fault = .store e := by
  rw [← plan_eq_error_iff hnow]
  unfold verify verifyOver Call.Asks
  dsimp only
  cases plan config (call.delivery config) call.now with
  | error e => simp [carryOut, carryOutWith]
  | ok p =>
    cases p with
    | reject reason detail => simp [carryOut, carryOutWith]
    | accept => simp [carryOut, carryOutWith]
    | reserve nonce expires =>
      unfold carryOut carryOutWith
      rw [result_ofReservation_eq_error_iff]
      simp

/-- The result is a verdict. -/
def OutcomeOver.HasVerdict {Store : Type} (o : OutcomeOver Store) : Prop :=
  ∃ verdict, o.result = .ok verdict

/-- A call has a verdict if it does not fail before the store is reached, and the store gives an
answer or is unavailable. -/
theorem hasVerdict_iff (hnow : call.now.isAware = true) :
    (verify config s call).HasVerdict ↔
      (∀ fault, ¬Fails config (call.delivery config) call.now fault) ∧
        ∀ nonce expires e, call.Asks config nonce expires →
          (s.reserve call.caller nonce expires call.now).answer = .error e →
          e = .unavailable := by
  constructor
  · rintro ⟨verdict, hverdict⟩
    have hnever (fault : Fault) : (verify config s call).result ≠ .error fault := by
      rw [hverdict]
      intro h
      cases h
    refine ⟨fun fault hfails => hnever fault ((result_eq_error_iff hnow).2 (.inl hfails)), ?_⟩
    intro nonce expires e hask hanswer
    by_contra havailable
    exact hnever (.store e) ((result_eq_error_iff hnow).2
      (.inr ⟨nonce, expires, e, hask, hanswer, havailable, rfl⟩))
  · rintro ⟨hnever, hstore⟩
    cases hresult : (verify config s call).result with
    | ok verdict => exact ⟨verdict, hresult⟩
    | error fault =>
      rcases (result_eq_error_iff hnow).1 hresult with hfails | ⟨nonce, expires, e, hask, hanswer,
        havailable, -⟩
      · exact absurd hfails (hnever fault)
      · exact absurd (hstore nonce expires e hask hanswer) havailable

/-! ### Digits as the only reason -/

/-- All headers that a delivery must have are among the fields, and the timestamp is a number with
this many digits, which are too many. -/
def PresentsOverlong (config : Config) (fields : Fields) (count : ℕ) : Prop :=
  (∃ timestamp ∈ header? config.names fields .timestamp, Timestamp.IsOverlong timestamp count) ∧
    (header? config.names fields .signature).isSome ∧
    (config.policy = .required → (header? config.names fields .nonce).isSome)

theorem presentsOverlong_iff :
    PresentsOverlong config call.fields count ↔
      ∃ timestamp signature, HasHeaders config (call.delivery config) timestamp signature ∧
        Timestamp.IsOverlong timestamp count := by
  have hdelivery : call.delivery config = ⟨call.body, header? config.names call.fields .timestamp,
      header? config.names call.fields .signature, header? config.names call.fields .nonce⟩ :=
    Delivery.ofFields_eq _ _ _
  constructor
  · rintro ⟨⟨timestamp, htimestamp, hoverlong⟩, hsignature, hnonce⟩
    obtain ⟨signature, hsignature⟩ := Option.isSome_iff_exists.1 hsignature
    refine ⟨timestamp, signature, ⟨?_, ?_, ?_⟩, hoverlong⟩ <;> rw [hdelivery]
    · exact htimestamp
    · exact hsignature
    · exact hnonce
  · rintro ⟨timestamp, signature, ⟨htimestamp, hsignature, hnonce⟩, hoverlong⟩
    rw [hdelivery] at htimestamp hsignature hnonce
    exact ⟨⟨timestamp, htimestamp, hoverlong⟩, Option.isSome_iff_exists.2 ⟨_, hsignature⟩, hnonce⟩

/-- The call has all headers that it must have, and a timestamp that reads as a time. -/
def Call.IsDated (config : Config) (call : Call) : Prop :=
  ∃ timestamp signature declared, HasHeaders config (call.delivery config) timestamp signature ∧
    Timestamp.read timestamp = .ok declared

/-- What a call must have so as not to fail before the store is reached: few enough digits in its
timestamp, a skew that can be turned around if it has a timestamp at all, and an expiry for its
nonce if it is authentic and has a nonce. -/
theorem forall_not_fails_iff :
    (∀ fault, ¬Fails config (call.delivery config) call.now fault) ↔
      (∀ count, ¬PresentsOverlong config call.fields count) ∧
        (call.IsDated config → config.skew.micros ≤ Config.maxSkewMicros) ∧
        (call.IsAuthentic config → nonceOf config (call.delivery config) ≠ none →
          ∃ expires, expiry config call.now = .ok expires) := by
  constructor
  · intro hnever
    refine ⟨?_, ?_, ?_⟩
    · intro count hpresents
      obtain ⟨timestamp, signature, hheaders, hoverlong⟩ := presentsOverlong_iff.1 hpresents
      exact hnever _ (.digits hheaders hoverlong)
    · rintro ⟨timestamp, signature, declared, hheaders, hread⟩
      by_contra hskew
      exact hnever _ (.skew hheaders hread (not_le.1 hskew))
    · rintro ⟨timestamp, signature, declared, hauth⟩ hnonce
      obtain ⟨nonce, hnonce⟩ := Option.ne_none_iff_exists'.1 hnonce
      cases hexpiry : expiry config call.now with
      | error e => exact absurd (.expiry hauth hnonce hexpiry) (hnever _)
      | ok expires => exact ⟨expires, rfl⟩
  · rintro ⟨hshort, hskew, hexpiry⟩ fault hfails
    cases hfails with
    | digits hheaders hoverlong =>
      exact hshort _ (presentsOverlong_iff.2 ⟨_, _, hheaders, hoverlong⟩)
    | skew hheaders hread htooLong =>
      exact absurd (hskew ⟨_, _, _, hheaders, hread⟩) (not_le.2 htooLong)
    | expiry hauth hnonce hnever =>
      obtain ⟨expires, hexpires⟩ :=
        hexpiry ⟨_, _, _, hauth⟩ (Option.ne_none_iff_exists'.2 ⟨_, hnonce⟩)
      cases hexpires.symm.trans hnever

/-- A call whose timestamp has too many digits is refused for them, and does not reach the store. -/
theorem PresentsOverlong.verify_eq (h : PresentsOverlong config call.fields count)
    (hnow : call.now.isAware = true) (s : NonceStore) :
    verify config s call = ⟨.error (.tooManyDigits ⟨count⟩), s, [], []⟩ := by
  obtain ⟨timestamp, signature, hheaders, hoverlong⟩ := presentsOverlong_iff.1 h
  exact Fails.verify_eq (.digits hheaders hoverlong) hnow s

/-- A call that asks for a nonce has no timestamp with too many digits. -/
theorem Call.Asks.not_presentsOverlong (h : call.Asks config nonce expires) (count : ℕ) :
    ¬PresentsOverlong config call.fields count := by
  intro hpresents
  obtain ⟨timestamp, signature, hheaders, hoverlong⟩ := presentsOverlong_iff.1 hpresents
  have hfails := (plan_eq_error_iff h.isAware_now).2 (.digits hheaders hoverlong)
  rw [h] at hfails
  cases hfails

end Verifier

end WebhookAuth
