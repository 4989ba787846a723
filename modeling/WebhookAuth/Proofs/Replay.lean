import WebhookAuth.Proofs.History

/-!
# Presenting a delivery again

In a history whose reference times do not decrease, a nonce is held just if an earlier grant of it
is not over (`Chronological.holds_iff`). A delivery that was verified is turned down when it is
presented again, with one exception (`resultAt_again`): its nonce is over at the last moment of its
window if the first call came at the first moment (`SpansWindow`), and then it is verified once
more.
-/

namespace WebhookAuth.Verifier

variable {config : Config} {calls : List Call} {first again : Call} {i j : ℕ} {r : NonceRecord}
  {nonce : String} {declared : DateTime}

/-! ### Histories in order of time -/

/-- The reference times do not decrease. -/
def Chronological (calls : List Call) : Prop :=
  calls.Pairwise fun a b => a.now.instant ≤ b.now.instant

namespace Chronological

theorem le (h : Chronological calls) (hi : calls[i]? = some first) (hj : calls[j]? = some again)
    (hij : i ≤ j) : first.now.instant ≤ again.now.instant := by
  obtain ⟨hi', rfl⟩ := List.getElem?_eq_some_iff.1 hi
  obtain ⟨hj', rfl⟩ := List.getElem?_eq_some_iff.1 hj
  rcases hij.eq_or_lt with rfl | hlt
  · exact le_rfl
  · exact List.pairwise_iff_getElem.1 h i j hi' hj' hlt

/-- A nonce is held just if an earlier grant of it is not over. -/
theorem holds_iff (h : Chronological calls) (hj : calls[j]? = some again) :
    (tableBefore config calls j).Holds nonce again.now ↔
      ∃ i < j, ∃ r, Grants config calls i r ∧ r.nonce = nonce ∧
        again.now.instant < r.expires.instant := by
  constructor
  · exact exists_grants_of_holds
  · rintro ⟨i, hij, r, hgrant, rfl, hlive⟩
    refine hgrant.holds hij hj fun k between _ hkj hk => ?_
    exact (h.le hk hj hkj).trans_lt hlive

/-- Of two grants of a nonce, the first is over when the second is made. -/
theorem expires_le {r' : NonceRecord} (h : Chronological calls) (hi : Grants config calls i r)
    (hj : Grants config calls j r') (hij : i < j) (hnonce : r'.nonce = r.nonce)
    (hcall : calls[j]? = some again) : r.expires.instant ≤ again.now.instant := by
  obtain ⟨k, between, -, hkj, hk, hover⟩ := hi.exists_expired hj hij hnonce
  exact hover.trans (h.le hk hcall hkj)

end Chronological

/-! ### The same delivery once more -/

/-- The reference times of two calls are the first and the last moment at which the declared time is
in the window, and a nonce that is reserved at the first is over at the last. -/
def SpansWindow (config : Config) (declared first again : DateTime) : Prop :=
  declared.instant = first.instant + config.skew.micros ∧
    again.instant = declared.instant + config.reach ∧
    0 < config.skew.micros ∧ ∀ age ∈ config.maxAge, age.micros ≤ config.skew.micros

/-- A call strictly between two indices is verified with this nonce header. -/
def VerifiedBetween (config : Config) (calls : List Call) (i j : ℕ) (nonce : Option String) :
    Prop :=
  ∃ k between, i < k ∧ k < j ∧ calls[k]? = some between ∧
    (between.delivery config).nonce = nonce ∧ resultAt config calls k = some (.ok .verified)

/-- As long as the declared time stays in the window, a nonce is over just at the last moment of a
window at whose first moment it was reserved. -/
theorem expires_le_iff_spansWindow {expires first again : DateTime} (hset : config.nonceTtl = none)
    (hexpiry : expiry config first = .ok expires) (hfirst : config.InWindow declared first)
    (hagain : again.instant ≤ declared.instant + config.reach) :
    expires.instant ≤ again.instant ↔ SpansWindow config declared first again := by
  obtain ⟨lifetime, hlifetime, hinstant, -⟩ := exists_lifetime_of_expiry hexpiry
  have hlength := Config.length_le_lifetime hset hlifetime
  have hfront := hfirst.2
  unfold SpansWindow
  rw [← Config.lifetime_eq_length_iff hset hlifetime]
  omega

theorem SpansWindow.expires_eq {expires first again : DateTime} (hset : config.nonceTtl = none)
    (hexpiry : expiry config first = .ok expires) (h : SpansWindow config declared first again) :
    expires.instant = again.instant := by
  obtain ⟨lifetime, hlifetime, hinstant, -⟩ := exists_lifetime_of_expiry hexpiry
  obtain ⟨hfront, hback, hends⟩ := h
  have hlength := (Config.lifetime_eq_length_iff hset hlifetime).2 hends
  omega

/-- After a grant, a nonce that is asked for again in the window is not held just if it is over at
the last moment of the window and nobody has taken it in between. -/
theorem Grants.not_holds_iff (hpolicy : config.policy = .required) (hset : config.nonceTtl = none)
    (hsorted : Chronological calls) (hij : i < j) (hi : calls[i]? = some first)
    (hj : calls[j]? = some again) (hgrant : Grants config calls i r)
    (hfirst : config.InWindow declared first.now)
    (hagain : again.now.instant ≤ declared.instant + config.reach) :
    ¬(tableBefore config calls j).Holds r.nonce again.now ↔
      SpansWindow config declared first.now again.now ∧
        ¬VerifiedBetween config calls i j r.nonce := by
  have hexpiry := (hgrant.asks hi).expiry_eq
  rw [hsorted.holds_iff hj]
  constructor
  · intro hfree
    have hspans : SpansWindow config declared first.now again.now := by
      rw [← expires_le_iff_spansWindow hset hexpiry hfirst hagain]
      by_contra hlive
      exact hfree ⟨i, hij, r, hgrant, rfl, not_le.1 hlive⟩
    refine ⟨hspans, ?_⟩
    -- the record of a grant in between would still be there
    rintro ⟨k, between, hik, hkj, hk, hnonce, hverified⟩
    obtain ⟨r', hgrant'⟩ := (resultAt_eq_verified_iff hpolicy).1 hverified
    have hask := hgrant'.asks hk
    have hsame : r'.nonce = r.nonce := by
      rw [← nonceOf_of_required hpolicy, hask.nonceOf_eq] at hnonce
      exact Option.some.inj hnonce
    have hover := hsorted.expires_le hgrant hgrant' hik hsame hk
    have hends := hspans.expires_eq hset hexpiry
    have hlive := hask.now_lt_expires
    exact hfree ⟨k, hkj, r', hgrant', hsame, by omega⟩
  · rintro ⟨hspans, hnone⟩ ⟨k, hkj, r', hgrant', hsame, hlive⟩
    have hends := hspans.expires_eq hset hexpiry
    rcases lt_trichotomy k i with hki | rfl | hik
    · have hover := hsorted.expires_le hgrant' hgrant hki hsame.symm hi
      have hle := hsorted.le hi hj hij.le
      omega
    · have hsameEnd := Except.ok.inj (hexpiry.symm.trans (hgrant'.asks hi).expiry_eq)
      rw [← hsameEnd] at hlive
      omega
    · obtain ⟨between, hk, -, -⟩ := id hgrant'
      refine hnone ⟨k, between, hik, hkj, hk, ?_,
    (resultAt_eq_verified_iff hpolicy).2 ⟨r', hgrant'⟩⟩
      rw [← nonceOf_of_required hpolicy, (hgrant'.asks hk).nonceOf_eq, hsame]

/-- What a second presentation of a delivery is answered with, at a time that states its offset and
from which the lifetime of a nonce stays on the calendar. It is verified again only if its two
calls span its window, a nonce is over at the end of the window, and no call in between has taken
the nonce. Otherwise it is a replay, or out of its window once that is past. -/
theorem resultAt_again (hpolicy : config.policy = .required) (hset : config.nonceTtl = none)
    (hsorted : Chronological calls) (hij : i < j) (hi : calls[i]? = some first)
    (hj : calls[j]? = some again) (hbody : again.body = first.body)
    (hfields : again.fields = first.fields)
    (hfirst : resultAt config calls i = some (.ok .verified)) (haware : again.now.isAware = true)
    (hexpiry : ∃ expires, expiry config again.now = .ok expires) :
    ∃ timestamp declared, (first.delivery config).timestamp = some timestamp ∧
      Timestamp.read timestamp = .ok declared ∧
      (resultAt config calls j = some (.ok .verified) ↔
        SpansWindow config declared first.now again.now ∧
          ¬VerifiedBetween config calls i j (first.delivery config).nonce) ∧
      (resultAt config calls j ≠ some (.ok .verified) →
        resultAt config calls j = some (.ok (.rejected
          (if again.now.instant ≤ declared.instant + config.reach then .replayDetected
            else .timestampOutOfWindow) none))) := by
  obtain ⟨r, hgrant⟩ := (resultAt_eq_verified_iff hpolicy).1 hfirst
  have hask := hgrant.asks hi
  obtain ⟨⟨timestamp, signature, declared, hauth⟩, hnonce, -⟩ := of_plan_eq_reserve hask
  refine ⟨timestamp, declared, hauth.timestamp_eq, hauth.read_eq, ?_⟩
  have hsame : again.delivery config = first.delivery config := by
    rw [Call.delivery, hbody, hfields, Call.delivery]
  have hplan := hauth.plan_at haware
  have hle := hsorted.le hi hj hij.le
  have hfront := hauth.inWindow.2
  rw [nonceOf_of_required hpolicy] at hnonce
  rw [hnonce]
  by_cases hback : again.now.instant ≤ declared.instant + config.reach
  · -- in the window the store decides
    have hin : config.InWindow declared again.now := ⟨by omega, by omega⟩
    obtain ⟨expires, hexpires⟩ := hexpiry
    have hask' : again.Asks config r.nonce expires := by
      rw [Call.Asks, hsame, hplan, if_pos hin, planReservation_eq_reserve_iff]
      exact ⟨hask.nonceOf_eq, hexpires⟩
    rw [hask'.resultAt_eq hj, if_pos hback,
      ← hgrant.not_holds_iff hpolicy hset hsorted hij hi hj hauth.inWindow hback]
    by_cases hheld : (tableBefore config calls j).Holds r.nonce again.now
    · rw [if_pos hheld]
      simp [hheld]
    · rw [if_neg hheld]
      simp [hheld]
  · have hout : ¬config.InWindow declared again.now := fun hin => hback (by linarith [hin.1])
    have hresult : (verify config (.memory (tableBefore config calls j)) again).result =
        .ok (.rejected .timestampOutOfWindow none) := by
      unfold verify verifyOver
      dsimp only
      rw [hsame, hplan, if_neg hout]
      rfl
    rw [resultAt_eq hj, hresult, if_neg hback]
    refine ⟨⟨fun h => ?_, fun h => ?_⟩, fun _ => rfl⟩
    · cases h
    · exact absurd h.1.2.1.le hback

/-- The sample delivery, at the first moment of its window and in a later minute. -/
def sampleReplay (m : ℕ) : List Call :=
  [sampleCall "n" [120, 10, 121] 0, sampleCall "n" [120, 10, 121] m]

theorem sampleReplay_zero (m : ℕ) :
    Grants sampleConfig (sampleReplay m) 0 ⟨"n", sampleMinute 10⟩ := by
  have hask : (sampleCall "n" [120, 10, 121] 0).Asks sampleConfig "n" (sampleMinute 10) :=
    sampleCall_asks (by decide) (by decide +kernel) (by decide +kernel)
  exact ⟨_, rfl, hask, MemoryStore.not_holds_empty⟩

theorem chronological_sampleReplay (m : ℕ) : Chronological (sampleReplay m) := by
  refine List.pairwise_pair.2 ?_
  have hnonneg : 0 ≤ (m : ℤ) % 60 := Int.emod_nonneg _ (by decide)
  simpa [sampleCall, sampleMinute, DateTime.instant] using hnonneg

theorem resultAt_again_of_ninth_minute :
    ∃ timestamp declared,
      ((sampleCall "n" [120, 10, 121] 0).delivery sampleConfig).timestamp = some timestamp ∧
      Timestamp.read timestamp = .ok declared ∧
      (resultAt sampleConfig (sampleReplay 9) 1 = some (.ok .verified) ↔
        SpansWindow sampleConfig declared (sampleMinute 0) (sampleMinute 9) ∧
          ¬VerifiedBetween sampleConfig (sampleReplay 9) 0 1
            ((sampleCall "n" [120, 10, 121] 0).delivery sampleConfig).nonce) ∧
      (resultAt sampleConfig (sampleReplay 9) 1 ≠ some (.ok .verified) →
        resultAt sampleConfig (sampleReplay 9) 1 = some (.ok (.rejected
          (if (sampleMinute 9).instant ≤ declared.instant + sampleConfig.reach then .replayDetected
            else .timestampOutOfWindow) none))) := by
  have hfirst : resultAt sampleConfig (sampleReplay 9) 0 = some (.ok .verified) :=
    (resultAt_eq_verified_iff rfl).2 ⟨_, sampleReplay_zero 9⟩
  have hexpiry : expiry sampleConfig (sampleMinute 9) = .ok (sampleMinute 19) := by decide +kernel
  exact resultAt_again rfl rfl (chronological_sampleReplay 9) Nat.zero_lt_one rfl rfl rfl rfl
    hfirst rfl ⟨_, hexpiry⟩

/-- A delivery that is first presented at the first moment of its window is verified again at the
last. -/
theorem verified_at_both_ends :
    resultAt sampleConfig (sampleReplay 10) 0 = some (.ok .verified) ∧
      resultAt sampleConfig (sampleReplay 10) 1 = some (.ok .verified) := by
  have hgrant := sampleReplay_zero 10
  have hcall : (sampleReplay 10)[1]? = some (sampleCall "n" [120, 10, 121] 10) := rfl
  have hask : (sampleCall "n" [120, 10, 121] 10).Asks sampleConfig "n" (sampleMinute 20) :=
    sampleCall_asks (by decide) (by decide +kernel) (by decide +kernel)
  refine ⟨(resultAt_eq_verified_iff rfl).2 ⟨_, hgrant⟩, ?_⟩
  rw [hask.resultAt_eq hcall, if_neg]
  -- the only earlier grant is over just now
  rw [(chronological_sampleReplay 10).holds_iff hcall]
  rintro ⟨i, hi, r, hgrant', -, hlive⟩
  cases Nat.lt_one_iff.1 hi
  have hexpiry := (hgrant'.asks rfl).expiry_eq.symm.trans (hgrant.asks rfl).expiry_eq
  rw [Except.ok.inj hexpiry] at hlive
  exact lt_irrefl _ hlive

end WebhookAuth.Verifier
