import WebhookAuth.Proofs.Instant
import WebhookAuth.Verifier

/-!
# Freshness

The window around a reference time, told by instants: it reaches `Config.reach` back and the skew
ahead, both ends included (`Config.isWithinWindow_eq`). A nonce that is reserved at a time is held
for the lifetime that the configuration gives (`Verifier.exists_lifetime_of_expiry`). Where none is
set, that is at least the length of the window (`Config.length_le_lifetime`); it is no longer than
the window just where the clocks may differ and no age is allowed beyond the skew
(`Config.lifetime_eq_length_iff`).
-/

namespace WebhookAuth

namespace Config

variable {c : Config} {declared now : DateTime} {lifetime : Duration}

/-! ### The window -/

/-- How many microseconds the window reaches back from the reference time. -/
def reach (c : Config) : ℤ := min c.skew.micros (c.maxAge.getD c.skew).micros

/-- The declared time lies in the window around the reference time. -/
def InWindow (c : Config) (declared now : DateTime) : Prop :=
  now.instant - c.reach ≤ declared.instant ∧ declared.instant ≤ now.instant + c.skew.micros

instance : Decidable (c.InWindow declared now) := inferInstanceAs (Decidable (_ ∧ _))

theorem reach_le_skew (c : Config) : c.reach ≤ c.skew.micros := min_le_left _ _

/-- The greatest skew that can be turned around: 999999999 days. -/
def maxSkewMicros : ℤ := 999999999 * dayMicros

theorem neg_skew_eq_ok (h : c.skew.micros ≤ maxSkewMicros) :
    ∃ ahead, c.skew.neg = .ok ahead ∧ ahead.micros = -c.skew.micros := by
  have hskew := c.skew_nonneg
  unfold maxSkewMicros dayMicros at h
  have hrange : -86399999913600000000 ≤ -c.skew.micros ∧
      -c.skew.micros ≤ 86399999999999999999 := by omega
  refine ⟨⟨-c.skew.micros, hrange.1, hrange.2⟩, ?_, rfl⟩
  rw [Duration.neg, Duration.ofMicros, dif_pos hrange]

theorem neg_skew_eq_error (h : maxSkewMicros < c.skew.micros) :
    c.skew.neg = .error (.durationOutOfRange (-1000000000)) := by
  have hupper := c.skew.upper
  unfold maxSkewMicros dayMicros at h
  have hrange : ¬(-86399999913600000000 ≤ -c.skew.micros ∧
      -c.skew.micros ≤ 86399999999999999999) := by omega
  have hdays : -c.skew.micros / (dayMicros : ℤ) = -1000000000 := by
    unfold dayMicros
    omega
  rw [Duration.neg, Duration.ofMicros, dif_neg hrange, hdays]

theorem skew_le_of_neg {ahead : Duration} (h : c.skew.neg = .ok ahead) :
    c.skew.micros ≤ maxSkewMicros := by
  have hahead := Duration.micros_of_ofMicros h
  have hlower := ahead.lower
  unfold maxSkewMicros dayMicros
  omega

/-- The window check for times that both state their offset, if the skew can be turned around. -/
theorem isWithinWindow_eq (hskew : c.skew.micros ≤ maxSkewMicros)
    (hdeclared : declared.isAware = true) (hnow : now.isAware = true) :
    Timestamp.isWithinWindow declared now c.skew c.maxAge =
      .ok (decide (c.InWindow declared now)) := by
  obtain ⟨ahead, hneg, hahead⟩ := neg_skew_eq_ok hskew
  have hage : now.microsSince declared = .ok (now.instant - declared.instant) := by
    rw [DateTime.microsSince, if_pos (hnow.trans hdeclared.symm)]
  unfold Timestamp.isWithinWindow
  simp only [hage, hneg, bind, Except.bind, pure, Except.pure, hahead]
  have hreach := c.reach_le_skew
  -- too old for the skew, too far ahead, or left to the greatest age
  split_ifs with hold hahead
  · rw [decide_eq_false]
    rintro ⟨hback, -⟩
    omega
  · rw [decide_eq_false]
    rintro ⟨-, hfront⟩
    omega
  · congr 1
    rw [Bool.eq_iff_iff, decide_eq_true_iff]
    unfold InWindow reach
    cases c.maxAge with
    | none => simp; omega
    | some age => simp; omega

/-- The window check has no answer if the skew cannot be turned around. -/
theorem isWithinWindow_eq_error (hskew : maxSkewMicros < c.skew.micros)
    (hdeclared : declared.isAware = true) (hnow : now.isAware = true) :
    Timestamp.isWithinWindow declared now c.skew c.maxAge =
      .error (.durationOutOfRange (-1000000000)) := by
  have hage : now.microsSince declared = .ok (now.instant - declared.instant) := by
    rw [DateTime.microsSince, if_pos (hnow.trans hdeclared.symm)]
  -- no time is so far in the past that the skew need not be turned around
  have hyoung : ¬c.skew.micros < now.instant - declared.instant := by
    have hbound := DateTime.instant_sub_lt now declared
    unfold maxSkewMicros dayMicros at hskew
    unfold wallLimit dayMicros at hbound
    omega
  unfold Timestamp.isWithinWindow
  simp only [hage, neg_skew_eq_error hskew, bind, Except.bind, pure, Except.pure]
  rw [if_neg hyoung]

/-- A time that passes the window check states its offset as the reference time does, and the skew
can be turned around. -/
theorem of_isWithinWindow
    (h : Timestamp.isWithinWindow declared now c.skew c.maxAge = .ok true) :
    now.isAware = declared.isAware ∧ c.skew.micros ≤ maxSkewMicros := by
  unfold Timestamp.isWithinWindow DateTime.microsSince at h
  by_cases haware : now.isAware = declared.isAware
  · refine ⟨haware, ?_⟩
    rw [if_pos haware] at h
    simp only [bind, Except.bind, pure, Except.pure] at h
    split at h
    · cases h
    · cases hneg : c.skew.neg with
      | error e => rw [hneg] at h; cases h
      | ok ahead => exact skew_le_of_neg hneg
  · rw [if_neg haware] at h
    cases h

/-! ### The lifetime of a nonce -/

/-- What the lifetime follows from where none is set. -/
theorem micros_of_nonceLifetime (hset : c.nonceTtl = none) (h : c.nonceLifetime = .ok lifetime) :
    lifetime.micros =
      if 0 < c.skew.micros + (c.maxAge.getD c.skew).micros
      then c.skew.micros + (c.maxAge.getD c.skew).micros else secondMicros := by
  unfold nonceLifetime at h
  rw [hset] at h
  cases hsum : c.skew.add (c.maxAge.getD c.skew) with
  | error e => rw [hsum] at h; cases h
  | ok sum =>
    have hmicros : sum.micros = _ := Duration.micros_of_ofMicros hsum
    rw [hsum] at h
    simp only [bind, Except.bind, pure, Except.pure, Except.ok.injEq] at h
    rw [← h, ← hmicros]
    split_ifs
    · rfl
    · rfl

theorem lifetime_pos (h : c.nonceLifetime = .ok lifetime) : 0 < lifetime.micros := by
  cases hset : c.nonceTtl with
  | none =>
    rw [micros_of_nonceLifetime hset h]
    split_ifs with hpos
    · exact hpos
    · decide
  | some ttl =>
    unfold nonceLifetime at h
    rw [hset] at h
    cases h
    exact c.nonceTtl_pos lifetime hset

/-- A nonce outlasts the window around its timestamp, or ends with it. -/
theorem length_le_lifetime (hset : c.nonceTtl = none) (h : c.nonceLifetime = .ok lifetime) :
    c.skew.micros + c.reach ≤ lifetime.micros := by
  have hreach : c.reach ≤ (c.maxAge.getD c.skew).micros := min_le_right _ _
  rw [micros_of_nonceLifetime hset h]
  split_ifs <;> omega

/-- A nonce ends with the window around its timestamp just where the skew is not zero and no age
beyond it is allowed. -/
theorem lifetime_eq_length_iff (hset : c.nonceTtl = none) (h : c.nonceLifetime = .ok lifetime) :
    lifetime.micros = c.skew.micros + c.reach ↔
      0 < c.skew.micros ∧ ∀ age ∈ c.maxAge, age.micros ≤ c.skew.micros := by
  have hskew := c.skew_nonneg
  have hnonneg := c.maxAge_nonneg
  rw [micros_of_nonceLifetime hset h]
  unfold reach secondMicros
  cases hage : c.maxAge with
  | none =>
    simp only [Option.getD_none, min_self, Option.mem_def, reduceCtorEq, false_implies,
      implies_true, and_true]
    split_ifs <;> omega
  | some age =>
    have := hnonneg age hage
    simp only [Option.getD_some, Option.mem_def, Option.some.injEq, forall_eq']
    split_ifs <;> omega

end Config

namespace Verifier

/-- A nonce is held for a lifetime from the reference time on. -/
theorem exists_lifetime_of_expiry {config : Config} {now expires : DateTime}
    (h : expiry config now = .ok expires) :
    ∃ lifetime, config.nonceLifetime = .ok lifetime ∧
      expires.instant = now.instant + lifetime.micros ∧ expires.isAware = now.isAware := by
  unfold expiry at h
  cases hlife : config.nonceLifetime with
  | error e => rw [hlife] at h; cases h
  | ok lifetime =>
    rw [hlife] at h
    exact ⟨lifetime, rfl, DateTime.instant_of_add h, DateTime.isAware_of_add h⟩

/-- A reference time that is given states its offset in the end; the clock's does if the clock
does. -/
theorem isAware_referenceTime {clock : DateTime} {given : Option DateTime}
    (hclock : given = none → clock.isAware = true) :
    (referenceTime clock given).isAware = true := by
  cases given with
  | none => exact hclock rfl
  | some t => exact t.isAware_assumeUtc

end Verifier

end WebhookAuth
