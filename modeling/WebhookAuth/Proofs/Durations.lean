import WebhookAuth.Proofs.Faults

/-!
# Long durations

The checks of a configuration look at the signs of its durations only, and let every length pass
(`Config.validate_settings`). Whether a call over a local store has a verdict depends on the
lengths: the skew must be short enough to be turned around, and the expiry of a nonce must lie on
the calendar (`hasVerdict_memory_iff`). So there are settings that pass all checks and leave an
authentic delivery without a verdict (`sampleDurations_fail`).
-/

namespace WebhookAuth

namespace Config

variable {c : Config} {lifetime : Duration}

/-- The settings that a configuration comes from. -/
def settings (c : Config) : Settings where
  secret := c.secret
  skew := some c.skew
  maxAge := c.maxAge
  policy := c.policy.name
  nonceTtl := c.nonceTtl
  names := c.names

/-- Every configuration passes the checks, whatever its durations. -/
theorem validate_settings (c : Config) : c.settings.validate = .ok c := by
  have hage : ¬(c.maxAge.any (·.micros < 0)) = true := by
    intro h
    obtain ⟨age, hmem, hnegative⟩ := (Option.any_eq_true _ _).1 h
    exact absurd (of_decide_eq_true hnegative) (not_lt.2 (c.maxAge_nonneg age hmem))
  have httl : ¬(c.nonceTtl.any (·.micros ≤ 0)) = true := by
    intro h
    obtain ⟨ttl, hmem, hnonpos⟩ := (Option.any_eq_true _ _).1 h
    exact absurd (of_decide_eq_true hnonpos) (not_le.2 (c.nonceTtl_pos ttl hmem))
  unfold Settings.validate settings
  dsimp only
  rw [dif_neg c.secret_ne_nil, dif_neg (not_lt.2 c.skew_nonneg), dif_neg hage, dif_neg httl,
    NoncePolicy.ofName?_name]

/-- How many microseconds a nonce is to be remembered. -/
def lifetimeMicros (c : Config) : ℤ :=
  c.nonceTtl.elim
    (if 0 < c.skew.micros + (c.maxAge.getD c.skew).micros
      then c.skew.micros + (c.maxAge.getD c.skew).micros else secondMicros)
    (·.micros)

theorem micros_eq_lifetimeMicros (h : c.nonceLifetime = .ok lifetime) :
    lifetime.micros = c.lifetimeMicros := by
  unfold lifetimeMicros
  cases hset : c.nonceTtl with
  | none => exact micros_of_nonceLifetime hset h
  | some ttl =>
    unfold nonceLifetime at h
    rw [hset] at h
    cases h
    rfl

/-- The lifetime can be computed if it is a duration at all. -/
theorem exists_nonceLifetime (h : c.lifetimeMicros ≤ 86399999999999999999) :
    ∃ lifetime, c.nonceLifetime = .ok lifetime := by
  unfold lifetimeMicros at h
  unfold nonceLifetime
  cases hset : c.nonceTtl with
  | some ttl => exact ⟨ttl, rfl⟩
  | none =>
    rw [hset, Option.elim_none] at h
    have hskew := c.skew_nonneg
    have hlower := (c.maxAge.getD c.skew).lower
    have hrange : -86399999913600000000 ≤ c.skew.micros + (c.maxAge.getD c.skew).micros ∧
        c.skew.micros + (c.maxAge.getD c.skew).micros ≤ 86399999999999999999 := by
      split_ifs at h <;> omega
    dsimp only
    rw [Duration.add, Duration.ofMicros, dif_pos hrange]
    exact ⟨_, rfl⟩

end Config

namespace Verifier

variable {config : Config} {s : MemoryStore} {nonce : String} {expires now : DateTime}

/-- A nonce has an expiry if that lies on the calendar. -/
theorem exists_expiry_iff :
    (∃ expires, expiry config now = .ok expires) ↔
      now.wall + config.lifetimeMicros < wallLimit := by
  unfold expiry
  constructor
  · rintro ⟨expires, hexpires⟩
    cases hlifetime : config.nonceLifetime with
    | error e => rw [hlifetime] at hexpires; cases hexpires
    | ok lifetime =>
      rw [hlifetime] at hexpires
      rw [← Config.micros_eq_lifetimeMicros hlifetime]
      exact (DateTime.canAdd_iff.1 ⟨expires, hexpires⟩).2
  · intro hlt
    have hshort : config.lifetimeMicros ≤ 86399999999999999999 := by
      unfold wallLimit at hlt
      omega
    obtain ⟨lifetime, hlifetime⟩ := Config.exists_nonceLifetime hshort
    rw [← Config.micros_eq_lifetimeMicros hlifetime] at hlt
    rw [hlifetime]
    have hpos := Config.lifetime_pos hlifetime
    exact DateTime.canAdd_iff.2 ⟨by omega, hlt⟩

/-- A local store with an expiry that cannot be compared fails. -/
theorem answer_reserve_of_not_allAware (hs : ¬s.AllAware) (caller : Caller) (nonce : String)
    (expires : DateTime) (hnow : now.isAware = true) :
    ((NonceStore.memory s).reserve caller nonce expires now).answer =
      .error (.time .mixedComparison) := by
  unfold NonceStore.reserve MemoryStore.reserve
  dsimp only
  rw [MemoryStore.sweep_of_not_allAware hs hnow]
  rfl

/-- When a call over a local store has a verdict, if its timestamp has not too many digits: if it
has a timestamp at all, the skew must be short enough to be turned around; and if it is authentic
and has a nonce, the expiry of the nonce must lie on the calendar, and the expiries in the store
must be comparable with the reference time. -/
theorem hasVerdict_memory_iff (s : MemoryStore) (caller : Caller) (body : Bytes) (fields : Fields)
    (clock : DateTime) (given : Option DateTime) (hclock : given = none → clock.isAware = true)
    (hshort : ∀ count, ¬PresentsOverlong config fields count) :
    let call : Call := ⟨caller, body, fields, referenceTime clock given⟩
    (verify config (.memory s) call).HasVerdict ↔
      (call.IsDated config → config.skew.micros ≤ Config.maxSkewMicros) ∧
        (call.IsAuthentic config → nonceOf config (call.delivery config) ≠ none →
          call.now.wall + config.lifetimeMicros < wallLimit ∧ s.AllAware) := by
  intro call
  have hnow : call.now.isAware = true := isAware_referenceTime hclock
  rw [hasVerdict_iff hnow, forall_not_fails_iff]
  constructor
  · rintro ⟨⟨-, hskew, hexpiry⟩, hstore⟩
    refine ⟨hskew, fun hauth hnonce => ?_⟩
    obtain ⟨expires, hexpires⟩ := hexpiry hauth hnonce
    refine ⟨exists_expiry_iff.1 ⟨expires, hexpires⟩, ?_⟩
    by_contra hstray
    obtain ⟨nonce, hnonce⟩ := Option.ne_none_iff_exists'.1 hnonce
    obtain ⟨timestamp, signature, declared, hauth⟩ := hauth
    have hask : call.Asks config nonce expires :=
      hauth.plan_eq.trans (planReservation_eq_reserve_iff.2 ⟨hnonce, hexpires⟩)
    cases hstore nonce expires _ hask
      (answer_reserve_of_not_allAware hstray call.caller nonce expires hnow)
  · rintro ⟨hskew, hreserve⟩
    refine ⟨⟨hshort, hskew, fun hauth hnonce => ?_⟩, fun nonce expires e hask hanswer => ?_⟩
    · exact exists_expiry_iff.2 (hreserve hauth hnonce).1
    · obtain ⟨hauth, hnonce, -⟩ := of_plan_eq_reserve hask
      have hresponds : (NonceStore.memory s).Responds call.caller :=
        (hreserve hauth (Option.ne_none_iff_exists'.2 ⟨nonce, hnonce⟩)).2
      exact hresponds.eq_unavailable hask.isBlankText_nonce hask.isAware_expires hnow hanswer

theorem hasVerdict_memory_iff_sampleCall :
    (verify sampleConfig (.memory .empty)
      ⟨.blocking, [120, 10, 121], (sampleCall "n" [120, 10, 121] 5).fields,
        referenceTime (sampleMinute 5) none⟩).HasVerdict := by
  have hask : (sampleCall "n" [120, 10, 121] 5).Asks sampleConfig "n" (sampleMinute 15) :=
    sampleCall_asks_n (by decide)
  exact (hasVerdict_memory_iff .empty .blocking [120, 10, 121] _ (sampleMinute 5) none
    (fun _ => rfl) hask.not_presentsOverlong).2
    ⟨fun _ => by decide, fun _ _ => ⟨by decide, MemoryStore.allAware_empty⟩⟩

/-- The longest span of time. -/
def longest : Duration := ⟨86399999999999999999, by decide, by decide⟩

/-- The sample configuration with a skew that cannot be turned around. -/
def sampleLoose : Config := { sampleConfig with skew := longest, skew_nonneg := by decide }

/-- The sample configuration with an age that cannot be added to the skew. -/
def sampleAged : Config :=
  { sampleConfig with
    maxAge := some longest
    maxAge_nonneg := by
      intro age h
      cases h
      decide }

/-- The configuration passes all checks, and the sample delivery, whose timestamp has few digits,
has no verdict under it because a time cannot be computed. -/
def FailsSample (config : Config) (e : TimeError) : Prop :=
  config.settings.validate = .ok config ∧
    (∀ count, ¬PresentsOverlong config (sampleCall "n" [120, 10, 121] 5).fields count) ∧
    (verify config (.memory .empty) (sampleCall "n" [120, 10, 121] 5)).result = .error (.time e)

theorem failsSample_of_fails {config : Config} {e : TimeError}
    (h : Fails config ((sampleCall "n" [120, 10, 121] 5).delivery config) (sampleMinute 5)
      (.time e)) : FailsSample config e := by
  have hresult : verify config (.memory .empty) (sampleCall "n" [120, 10, 121] 5) =
      ⟨.error (.time e), .memory .empty, [], []⟩ :=
    Fails.verify_eq h rfl _
  refine ⟨config.validate_settings, fun count hpresents => ?_, by rw [hresult]⟩
  rw [hpresents.verify_eq rfl] at hresult
  cases hresult

/-- Durations that cannot be turned around, or added together, or added to a date in 1970, pass all
checks, and the sample delivery has no verdict under them. -/
theorem sampleDurations_fail :
    FailsSample sampleLoose (.durationOutOfRange (-1000000000)) ∧
      FailsSample sampleAged (.durationOutOfRange 1000000000) ∧
      FailsSample sampleEndless .dateOutOfRange := by
  have hask : (sampleCall "n" [120, 10, 121] 5).Asks sampleConfig "n" (sampleMinute 15) :=
    sampleCall_asks_n (by decide)
  obtain ⟨⟨timestamp, signature, declared, hauth⟩, hnonce, -⟩ := of_plan_eq_reserve hask
  refine ⟨failsSample_of_fails ?_, failsSample_of_fails ?_, failsSample_of_fails ?_⟩
  · exact .skew ⟨hauth.timestamp_eq, hauth.signature_eq, hauth.nonce_isSome⟩ hauth.read_eq
      (by decide)
  · have hreach : sampleAged.reach = sampleConfig.reach := by decide
    have hin : sampleAged.InWindow declared (sampleMinute 5) := by
      rw [Config.InWindow, hreach]
      exact hauth.inWindow
    have hwindow : Timestamp.isWithinWindow declared (sampleMinute 5) sampleAged.skew
        sampleAged.maxAge = .ok true := by
      rw [Config.isWithinWindow_eq (by decide) (Timestamp.isAware_of_read hauth.read_eq) rfl,
        decide_eq_true hin]
    exact .expiry ⟨hauth.timestamp_eq, hauth.signature_eq, hauth.nonce_isSome, hauth.read_eq,
      hwindow, hauth.valid⟩ hnonce (by decide +kernel)
  · exact .expiry ⟨hauth.timestamp_eq, hauth.signature_eq, hauth.nonce_isSome, hauth.read_eq,
      hauth.window_eq, hauth.valid⟩ hnonce (by decide +kernel)

end Verifier

end WebhookAuth
