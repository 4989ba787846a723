import WebhookAuth.Proofs.Consumption
import WebhookAuth.Proofs.Interleaving

/-!
# Calls that are overtaken

A call reads its reference time before its turn at the local store comes. In between a call with a
later reference time may have had its turn, for whatever nonce, and swept out what is over at that
time. A record that is not over yet for the call that waits is gone then, and its nonce is granted
again: `verified_again_iff` says just when.
-/

namespace WebhookAuth.Verifier

variable {config : Config} {t : MemoryStore} {r : NonceRecord} {call : Call} {nonce : String}
  {now expires : DateTime} {x first again : Settlement}

/-! ### One record of a nonce -/

/-- The table has no record of the nonce but this one, if that. -/
structure Sole (t : MemoryStore) (r : NonceRecord) : Prop where
  allAware : t.AllAware
  eq_of_mem : ∀ r' ∈ t.records, r'.nonce = r.nonce → r' = r

theorem Sole.holds_iff (h : Sole t r) :
    t.Holds r.nonce now ↔ r ∈ t.records ∧ now.instant < r.expires.instant := by
  constructor
  · rintro ⟨r', hmem, hnonce, hlive⟩
    cases h.eq_of_mem r' hmem hnonce
    exact ⟨hmem, hlive⟩
  · rintro ⟨hmem, hlive⟩
    exact ⟨r, hmem, rfl, hlive⟩

/-- A call that is not granted the nonce adds no record of it. -/
theorem Sole.tableAfter (h : Sole t r)
    (hrefused : ∀ expires, call.Asks config r.nonce expires → t.Holds r.nonce call.now) :
    Sole (tableAfter config t call) r := by
  refine ⟨allAware_tableAfter h.allAware call, fun r' hmem hnonce => ?_⟩
  rcases of_mem_tableAfter h.allAware hmem with hmem | ⟨hask, hfree⟩
  · exact h.eq_of_mem r' hmem hnonce
  · rw [hnonce] at hask hfree
    exact absurd (hrefused _ hask) hfree

/-- A call that is not granted the nonce leaves its record unless it asks for another when the
record is over. -/
theorem Sole.mem_tableAfter_iff (h : Sole t r)
    (hrefused : ∀ expires, call.Asks config r.nonce expires → t.Holds r.nonce call.now) :
    r ∈ (Verifier.tableAfter config t call).records ↔ r ∈ t.records ∧
      ∀ nonce expires, call.Asks config nonce expires → call.now.instant < r.expires.instant := by
  by_cases hask : ∃ nonce expires, call.Asks config nonce expires
  · obtain ⟨nonce, expires, hask⟩ := hask
    rw [hask.tableAfter_eq, MemoryStore.mem_records_reserve h.allAware hask.isAware_expires
      hask.isAware_now, hask.reserve_fst h.allAware]
    constructor
    · rintro (⟨hmem, hlive⟩ | ⟨hgranted, rfl⟩)
      · exact ⟨hmem, fun _ _ _ => hlive⟩
      · exact absurd (hrefused _ hask) (of_decide_eq_true (Except.ok.inj hgranted))
    · rintro ⟨hmem, hlive⟩
      exact .inl ⟨hmem, hlive nonce expires hask⟩
  · push Not at hask
    rw [tableAfter_of_not_asks hask]
    exact ⟨fun hmem => ⟨hmem, fun nonce expires h => absurd h (hask nonce expires)⟩, And.left⟩

/-! ### One settlement -/

/-- A call that is verified with a nonce has asked for it. -/
theorem Settlement.Uses.exists_asks {s : NonceStore} (h : x.Uses config nonce)
    (hverify : verify config s x.call = x.outcome) :
    ∃ expires, x.call.Asks config nonce expires := by
  obtain ⟨hverified, hnonce⟩ := h
  rw [← hverify] at hverified
  by_cases hask : ∃ nonce expires, x.call.Asks config nonce expires
  · obtain ⟨nonce', expires, hask⟩ := hask
    cases hnonce.symm.trans hask.nonceOf_eq
    exact ⟨expires, hask⟩
  · push Not at hask
    cases hnonce.symm.trans ((result_of_not_asks s hask).2 hverified)

/-- A reservation is granted only among expiries that can be compared. -/
theorem Call.Asks.allAware_of_verified (h : call.Asks config nonce expires)
    (hverified : (verify config (.memory t) call).result = .ok .verified) : t.AllAware := by
  intro r hr
  by_contra hnaive
  have hall : ¬(t.records.all fun r => r.expires.isAware == call.now.isAware) = true := by
    rw [List.all_eq_true]
    intro hall
    have heq := beq_iff_eq.1 (hall r hr)
    exact hnaive (heq.trans h.isAware_now)
  have hsweep : t.sweep call.now = .error .mixedComparison := if_neg hall
  have hreserve : t.reserve nonce expires call.now = (.error .mixedComparison, t) := by
    rw [MemoryStore.reserve, hsweep]
  rw [h.verify_eq] at hverified
  dsimp only [NonceStore.reserve] at hverified
  rw [hreserve] at hverified
  cases hverified

/-- A call that is verified with a nonce that it asks for found it free among comparable expiries,
and leaves its record with those that are not over. -/
theorem Call.Asks.of_verified (h : call.Asks config nonce expires)
    (hverified : (verify config (.memory t) call).result = .ok .verified) :
    t.AllAware ∧ ¬t.Holds nonce call.now ∧ ∀ r, r ∈ (tableAfter config t call).records ↔
      (r ∈ t.records ∧ call.now.instant < r.expires.instant) ∨ r = ⟨nonce, expires⟩ := by
  have ht := h.allAware_of_verified hverified
  have hfree : ¬t.Holds nonce call.now := by
    intro hheld
    rw [h.result_eq ht, if_pos hheld] at hverified
    cases hverified
  refine ⟨ht, hfree, fun r => ?_⟩
  rw [h.tableAfter_eq, MemoryStore.mem_records_reserve ht h.isAware_expires h.isAware_now,
    h.reserve_fst ht, decide_eq_true hfree]
  simp

/-- A call that is verified with a nonce leaves its record as the only one of the nonce. -/
theorem Settlement.Uses.sole (h : x.Uses config nonce)
    (hverify : verify config (.memory t) x.call = x.outcome)
    (hask : x.call.Asks config nonce expires) :
    Sole (tableAfter config t x.call) ⟨nonce, expires⟩ ∧
      ⟨nonce, expires⟩ ∈ (tableAfter config t x.call).records := by
  have hverified : (verify config (.memory t) x.call).result = .ok .verified := hverify ▸ h.1
  obtain ⟨hs, hfree, hmem⟩ := hask.of_verified hverified
  refine ⟨⟨allAware_tableAfter hs x.call, fun r hr hnonce => ?_⟩, (hmem _).2 (.inr rfl)⟩
  rcases (hmem r).1 hr with ⟨hold, hlive⟩ | rfl
  · exact absurd ⟨r, hold, hnonce, hlive⟩ hfree
  · rfl

/-- A call that is not verified with a nonce that it asks for finds it held. -/
theorem holds_of_not_uses (hs : t.AllAware) (hverify : verify config (.memory t) x.call = x.outcome)
    (hnot : ¬x.Uses config nonce) (hask : x.call.Asks config nonce expires) :
    t.Holds nonce x.call.now := by
  by_contra hfree
  refine hnot ⟨?_, hask.nonceOf_eq⟩
  rw [← hverify, hask.result_eq hs, if_neg hfree]

/-! ### Many settlements -/

open Traffic

/-- Calls that do not use the nonce leave its record just if none of them asks for a nonce when the
record is over. -/
theorem Sole.inOrder {l : List Settlement} {s : NonceStore} (h : Sole t r)
    (horder : InOrder config (.memory t) l s) (hnot : ∀ x ∈ l, ¬x.Uses config r.nonce) :
    ∃ t', s = .memory t' ∧ Sole t' r ∧
      (r ∈ t'.records ↔ r ∈ t.records ∧ ∀ x ∈ l, ∀ nonce expires,
        x.call.Asks config nonce expires → x.call.now.instant < r.expires.instant) := by
  induction l generalizing t with
  | nil => exact ⟨t, (inOrder_nil_iff.1 horder).symm, h, by simp⟩
  | cons x l ih =>
    obtain ⟨hverify, hrest⟩ := inOrder_cons_iff.1 horder
    have hrefused : ∀ expires, x.call.Asks config r.nonce expires → t.Holds r.nonce x.call.now :=
      fun _ hask => holds_of_not_uses h.allAware hverify (hnot x List.mem_cons_self) hask
    rw [← hverify, store_verify_memory] at hrest
    obtain ⟨t', hs, hsole, hmem⟩ :=
      ih (h.tableAfter hrefused) hrest fun y hy => hnot y (List.mem_cons_of_mem _ hy)
    refine ⟨t', hs, hsole, hmem.trans ?_⟩
    rw [h.mem_tableAfter_iff hrefused, List.forall_mem_cons, and_assoc]

/-- The store that calls leave is local if the one they find is. -/
theorem exists_memory_of_inOrder {l : List Settlement} {s : NonceStore}
    (h : InOrder config (.memory t) l s) : ∃ t', s = .memory t' := by
  induction l generalizing t with
  | nil => exact ⟨t, (inOrder_nil_iff.1 h).symm⟩
  | cons x l ih =>
    obtain ⟨hverify, hrest⟩ := inOrder_cons_iff.1 h
    rw [← hverify, store_verify_memory] at hrest
    exact ih hrest

/-- Calls run concurrently over a local store. After a call that is verified with a nonce, the next
that asks for it is verified or a replay. It is verified just if the lifetime of the nonce is over
at its own reference time, or at that of a call that has asked for a nonce in between. -/
theorem verified_again_iff {table : MemoryStore} {clock : DateTime} {arrivals : List Arrival}
    {moves : List Move} {earlier between later : List Settlement} {lifetime : Duration}
    (hsettlements : settlements config (start clock (.memory table) arrivals) moves =
      earlier ++ first :: (between ++ again :: later))
    (hlifetime : config.nonceLifetime = .ok lifetime) (hfirst : first.Uses config nonce)
    (hbetween : ∀ x ∈ between, ¬x.Uses config nonce)
    (hagain : again.call.Asks config nonce expires) :
    (again.outcome.result = .ok .verified ∨
        again.outcome.result = .ok (.rejected .replayDetected none)) ∧
      (again.outcome.result = .ok .verified ↔
        first.call.now.instant + lifetime.micros ≤ again.call.now.instant ∨
          ∃ x ∈ between, (∃ nonce expires, x.call.Asks config nonce expires) ∧
            first.call.now.instant + lifetime.micros ≤ x.call.now.instant) := by
  have horder := inOrder_settlements config clock (.memory table) arrivals moves
  rw [hsettlements, inOrder_append_iff] at horder
  obtain ⟨s₁, hearlier, horder⟩ := horder
  obtain ⟨t₁, rfl⟩ := exists_memory_of_inOrder hearlier
  obtain ⟨hverify, horder⟩ := inOrder_cons_iff.1 horder
  obtain ⟨s₂, horder, hlater⟩ := inOrder_append_iff.1 horder
  obtain ⟨hverify', -⟩ := inOrder_cons_iff.1 hlater
  -- the first call leaves the only record of the nonce
  obtain ⟨ends, hask⟩ := hfirst.exists_asks hverify
  obtain ⟨hsole, hthere⟩ := hfirst.sole hverify hask
  -- which stays just if no call in between finds it over
  rw [← hverify, store_verify_memory] at horder
  obtain ⟨t₂, rfl, hsole', hmem⟩ := hsole.inOrder horder hbetween
  rw [← hverify', hagain.result_eq hsole'.allAware, ← hask.instant_expires hlifetime]
  by_cases hheld : t₂.Holds nonce again.call.now
  · rw [if_pos hheld]
    obtain ⟨hstays, hlive⟩ := hsole'.holds_iff.1 hheld
    refine ⟨.inr rfl, iff_of_false (fun h => by cases h) ?_⟩
    rintro (hle | ⟨x, hx, ⟨nonce', expires', hask'⟩, hle⟩)
    · exact absurd hlive (not_lt.2 hle)
    · exact absurd ((hmem.1 hstays).2 x hx nonce' expires' hask') (not_lt.2 hle)
  · rw [if_neg hheld]
    refine ⟨.inl rfl, iff_of_true rfl ?_⟩
    by_contra hnever
    push Not at hnever
    obtain ⟨hlive, hlives⟩ := hnever
    refine hheld (hsole'.holds_iff.2 ⟨hmem.2 ⟨hthere, ?_⟩, hlive⟩)
    exact fun x hx nonce' expires' hask' => hlives x hx ⟨nonce', expires', hask'⟩

/-! ### A sample -/

/-- A delivery with the sample signature, to be verified by the clock. -/
def sampleLate (nonce : String) (body : Bytes) : Arrival where
  caller := .blocking
  body
  fields := (sampleCall nonce body 0).fields
  given := none

/-- The sample delivery twice, and the sample message divided in another way. -/
def sampleLates : List Arrival :=
  [sampleLate "n" [120, 10, 121], sampleLate "n" [120, 10, 121], sampleLate "n\nx" [121]]

/-- The first delivery settles in minute 0 and the second reads its time in minute 9, but before its
turn comes the third arrives in a given minute and settles. -/
def sampleRace (m : ℕ) : List Move :=
  [.advance 0, .advance 0, .advance 0, .tick (sampleMinute 9), .advance 1, .tick (sampleMinute m),
    .advance 2, .advance 2, .advance 2, .advance 1, .advance 1]

/-- The calls that settle in the sample race. -/
def sampleSettlements (m : ℕ) : List Settlement :=
  settlements sampleConfig (start (sampleMinute 0) (.memory .empty) sampleLates) (sampleRace m)

/-- The first delivery is verified, the second, which asks for the same nonce, settles last, and the
third settles in between. -/
theorem exists_sampleSettlements {m : ℕ} (hm : m = 9 ∨ m = 10) :
    ∃ first other again, sampleSettlements m = [first, other, again] ∧
      first.call = sampleCall "n" [120, 10, 121] 0 ∧ first.Uses sampleConfig "n" ∧
      other.call = sampleCall "n\nx" [121] m ∧ ¬other.Uses sampleConfig "n" ∧
      again.call = sampleCall "n" [120, 10, 121] 9 ∧
      again.outcome = verify sampleConfig (.memory (tableAfter sampleConfig
        (tableAfter sampleConfig .empty first.call) other.call)) again.call := by
  obtain ⟨first, other, again, heq, hfirst, hother, hagain⟩ :
      ∃ first other again, sampleSettlements m = [first, other, again] ∧
        first.call = sampleCall "n" [120, 10, 121] 0 ∧ other.call = sampleCall "n\nx" [121] m ∧
        again.call = sampleCall "n" [120, 10, 121] 9 := by
    rcases hm with rfl | rfl
    · exact ⟨_, _, _, rfl, rfl, rfl, rfl⟩
    · exact ⟨_, _, _, rfl, rfl, rfl, rfl⟩
  have horder := inOrder_settlements sampleConfig (sampleMinute 0) (.memory .empty) sampleLates
    (sampleRace m)
  rw [show settlements sampleConfig _ _ = _ from heq] at horder
  obtain ⟨hverify, horder⟩ := inOrder_cons_iff.1 horder
  rw [← hverify, store_verify_memory] at horder
  obtain ⟨hverify', horder⟩ := inOrder_cons_iff.1 horder
  rw [← hverify', store_verify_memory] at horder
  have hask : (sampleCall "n" [120, 10, 121] 0).Asks sampleConfig "n" (sampleMinute 10) :=
    sampleCall_asks (by decide) (by decide +kernel) (by decide +kernel)
  have hask' : (sampleCall "n\nx" [121] m).Asks sampleConfig "n\nx" (sampleMinute (m + 10)) :=
    sampleCall_asks (by omega) (by decide +kernel) (by decide +kernel)
  refine ⟨first, other, again, heq, hfirst, ⟨?_, ?_⟩, hother, ?_, hagain,
    (inOrder_cons_iff.1 horder).1.symm⟩
  · rw [← hverify, hfirst, hask.result_eq MemoryStore.allAware_empty,
      if_neg MemoryStore.not_holds_empty]
  · rw [Settlement.nonce?, hfirst]
    exact hask.nonceOf_eq
  · rintro ⟨-, hnonce⟩
    rw [Settlement.nonce?, hother, hask'.nonceOf_eq] at hnonce
    exact absurd hnonce (by decide)

/-- The second delivery is a replay if the third has the same reference time. -/
theorem verified_again_iff_sampleRace :
    ∃ first other again, sampleSettlements 9 = [first, other, again] ∧
      sampleConfig.nonceLifetime = .ok (.seconds 600) ∧ first.Uses sampleConfig "n" ∧
      ¬other.Uses sampleConfig "n" ∧
      again.call.Asks sampleConfig "n" (sampleMinute 19) ∧
      again.outcome.result = .ok (.rejected .replayDetected none) := by
  obtain ⟨first, other, again, heq, hfirst, huses, hother, hnot, hagain, -⟩ :=
    exists_sampleSettlements (m := 9) (.inl rfl)
  have hask : again.call.Asks sampleConfig "n" (sampleMinute 19) := by
    rw [hagain]
    exact sampleCall_asks (by decide) (by decide +kernel) (by decide +kernel)
  have hbetween : ∀ x ∈ [other], ¬x.Uses sampleConfig "n" := List.forall_mem_singleton.2 hnot
  have hsplit : settlements sampleConfig
      (start (sampleMinute 0) (.memory .empty) sampleLates) (sampleRace 9) =
        [] ++ first :: ([other] ++ again :: []) := heq
  obtain ⟨hcases, hiff⟩ :=
    verified_again_iff hsplit nonceLifetime_sampleConfig huses hbetween hask
  refine ⟨first, other, again, heq, nonceLifetime_sampleConfig, huses, hnot, hask,
    hcases.resolve_left ?_⟩
  rw [hiff, hfirst, hagain]
  rintro (hover | ⟨x, hx, -, hover⟩)
  · exact absurd hover (by decide)
  · rw [List.mem_singleton.1 hx, hother] at hover
    exact absurd hover (by decide)

/-- The second delivery is verified, nine minutes after the first, if the third comes a minute
later: the nonce was to be held for ten. -/
theorem sampleRace_verified_again :
    ∃ first other again, sampleSettlements 10 = [first, other, again] ∧
      sampleConfig.policy = .required ∧ sampleConfig.nonceLifetime = .ok (.seconds 600) ∧
      first.Uses sampleConfig "n" ∧ again.Uses sampleConfig "n" ∧
      first.call.now.instant ≤ again.call.now.instant ∧
      again.call.now.instant < first.call.now.instant + (Duration.seconds 600).micros := by
  obtain ⟨first, other, again, heq, hfirst, huses, hother, -, hagain, houtcome⟩ :=
    exists_sampleSettlements (m := 10) (.inr rfl)
  have hask : (sampleCall "n" [120, 10, 121] 0).Asks sampleConfig "n" (sampleMinute 10) :=
    sampleCall_asks (by decide) (by decide +kernel) (by decide +kernel)
  have hask' : (sampleCall "n\nx" [121] 10).Asks sampleConfig "n\nx" (sampleMinute 20) :=
    sampleCall_asks (by decide) (by decide +kernel) (by decide +kernel)
  have hask'' : (sampleCall "n" [120, 10, 121] 9).Asks sampleConfig "n" (sampleMinute 19) :=
    sampleCall_asks (by decide) (by decide +kernel) (by decide +kernel)
  have hs : (tableAfter sampleConfig
      (tableAfter sampleConfig .empty first.call) other.call).AllAware :=
    allAware_tableAfter (allAware_tableAfter MemoryStore.allAware_empty _) _
  refine ⟨first, other, again, heq, rfl, nonceLifetime_sampleConfig, huses, ⟨?_, ?_⟩, ?_⟩
  · rw [houtcome, hagain, hask''.result_eq hs, if_neg]
    rw [hfirst, hother, hask.tableAfter_eq, hask'.tableAfter_eq]
    decide +kernel
  · rw [Settlement.nonce?, hagain]
    exact hask''.nonceOf_eq
  · rw [hfirst, hagain]
    decide

end WebhookAuth.Verifier
