import WebhookAuth.Proofs.Binding
import WebhookAuth.Proofs.Callers

/-!
# Stores in each other's place

Two stores of any kind that keep the same nonces give the same results and logs over a sequence of
calls whose reference times lie less than the lifetime of a nonce apart, in whatever order
(`told_run_eq_told_run`). For then no entry is over at any of these times: a local store finds
nothing to sweep out, and the server of a remote one, which never forgets a key, forgets none too
late. In particular an empty local store and a remote one without keys can take each other's place
(`told_run_memory_eq_remote`).
-/

namespace WebhookAuth

variable {nonce nonce' : String} {expires now : DateTime} {caller : Caller}

/-- A reservation logs what its answer asks for. -/
theorem RemoteStore.log_reserve (s : RemoteStore) (caller : Caller) (nonce : String)
    (expires now : DateTime) :
    (s.reserve caller nonce expires now).log =
      logOf (s.reserve caller nonce expires now).answer := by
  unfold reserve reserveVia
  by_cases hclient : (s.clientOf caller).isNone
  · rw [if_pos hclient]
    cases caller <;> rfl
  rw [if_neg hclient]
  cases hcommand : s.command nonce expires now with
  | error e =>
    -- a command fails for its nonce or for its times, not for the server
    unfold command at hcommand
    split_ifs at hcommand
    · cases hcommand
      rfl
    · split at hcommand
      · cases hcommand
        rfl
      · cases hcommand
  | ok c =>
    dsimp only
    split_ifs <;> rfl

namespace NonceStore

open Verifier

variable {s s' : NonceStore} {calls : List Call} {call : Call}

/-- An entry of the nonce is there, whether it is over or not. -/
def Keeps (s : NonceStore) (nonce : String) : Prop := ∃ e ∈ s.entries, e.key = s.keyOf nonce

/-- The store answers the callers of all calls, and no entry of it is over at the reference time of
any of them. -/
structure Sustains (s : NonceStore) (calls : List Call) : Prop where
  answers : ∀ call ∈ calls, s.Answers call.caller
  isLive : ∀ e ∈ s.entries, ∀ call ∈ calls, e.isLive call.now = true

theorem Sustains.holds_iff (h : s.Sustains calls) (hcall : call ∈ calls) :
    s.Holds nonce call.now ↔ s.Keeps nonce := by
  constructor
  · rintro ⟨e, hmem, hkey, -⟩
    exact ⟨e, hmem, hkey⟩
  · rintro ⟨e, hmem, hkey⟩
    exact ⟨e, hmem, hkey, h.isLive e hmem call hcall⟩

theorem Sustains.liveEntries_eq (h : s.Sustains calls) (hcall : call ∈ calls) :
    s.liveEntries call.now = s.entries :=
  List.filter_eq_self.2 fun e hmem => h.isLive e hmem call hcall

theorem sustains_of_entries_eq_nil (hentries : s.entries = [])
    (hanswers : ∀ call ∈ calls, s.Answers call.caller) : s.Sustains calls := by
  refine ⟨hanswers, fun e hmem => ?_⟩
  rw [hentries] at hmem
  cases hmem

theorem not_keeps_of_entries_eq_nil (hentries : s.entries = []) : ¬s.Keeps nonce := by
  rintro ⟨e, hmem, -⟩
  rw [hentries] at hmem
  cases hmem

/-- A reservation with an answer logs nothing. -/
theorem log_reserve_eq_nil {granted : Bool}
    (h : (s.reserve caller nonce expires now).answer = .ok granted) :
    (s.reserve caller nonce expires now).log = [] := by
  cases s with
  | memory s => rfl
  | remote s =>
    have hanswer : (s.reserve caller nonce expires now).answer = .ok granted := h
    have hlog := s.log_reserve caller nonce expires now
    rw [hanswer] at hlog
    exact hlog

end NonceStore

namespace Verifier

variable {config : Config} {s s' : NonceStore} {calls : List Call} {call : Call}

/-- What an outcome tells: the result and the log. -/
def OutcomeOver.told {Store : Type} (o : OutcomeOver Store) :
    Except Fault Verdict × List LogEntry :=
  (o.result, o.log)

/-! ### One call -/

/-- A call that asks for no nonce tells the same over every kind of store. -/
theorem told_verifyOver_eq {Store Store' : Type}
    (h : ∀ nonce expires, ¬call.Asks config nonce expires) (reserve : Reserver Store)
    (reserve' : Reserver Store') (store : Store) (store' : Store') :
    (verifyOver reserve config store call).told =
      (verifyOver reserve' config store' call).told := by
  unfold verifyOver
  dsimp only
  cases hplan : plan config (call.delivery config) call.now with
  | error fault => rfl
  | ok p =>
    cases p with
    | reject reason detail => rfl
    | accept => rfl
    | reserve nonce expires => exact absurd hplan (h nonce expires)

namespace Call.Asks

/-- A nonce that is asked for is granted if it is not held. -/
theorem answer_reserve_eq (h : call.Asks config nonce expires) (hs : s.Answers call.caller) :
    (s.reserve call.caller nonce expires call.now).answer =
      .ok (decide (¬s.Holds nonce call.now)) := by
  obtain ⟨granted, hanswer⟩ :=
    NonceStore.exists_answer hs h.isBlankText_nonce h.isAware_expires h.isAware_now
  rcases NonceStore.entries_reserve hs.comparable h.isAware_expires h.isAware_now
    h.now_lt_expires with ⟨hgranted, hfree, -⟩ | ⟨hrefused, hheld, -⟩ | ⟨⟨e, herror⟩, -⟩
  · rw [hgranted, decide_eq_true hfree]
  · rw [hrefused, decide_eq_false (not_not.2 hheld)]
  · cases hanswer.symm.trans herror

/-- What a call that asks for a nonce tells, if the store answers its caller. -/
theorem told_verify_eq (h : call.Asks config nonce expires) (hs : s.Answers call.caller) :
    (verify config s call).told =
      if s.Holds nonce call.now then
        (.ok (.rejected .replayDetected none), [.rejected .replayDetected (some nonce)])
      else (.ok .verified, [.accepted nonce]) := by
  have hanswer := h.answer_reserve_eq hs
  have hlog := NonceStore.log_reserve_eq_nil hanswer
  rw [h.verify_eq]
  unfold ofReservation OutcomeOver.told
  rw [hanswer]
  by_cases hheld : s.Holds nonce call.now
  · rw [if_pos hheld, decide_eq_false (not_not.2 hheld)]
    unfold rejected
    dsimp only
    rw [hlog, List.nil_append]
  · rw [if_neg hheld, decide_eq_true hheld]
    dsimp only
    rw [hlog, List.nil_append]

/-- After a call that asks for a nonce the store keeps this nonce too. -/
theorem keeps_verify_iff (h : call.Asks config nonce expires) (hs : s.Sustains calls)
    (hcall : call ∈ calls) :
    (verify config s call).store.Keeps nonce' ↔ s.Keeps nonce' ∨ nonce' = nonce := by
  unfold NonceStore.Keeps
  rw [(resembles_verify config s call).keyOf_eq, (h.verify_of_answers (hs.answers call hcall)).2,
    hs.liveEntries_eq hcall]
  split_ifs with hheld
  · -- a replay leaves what is there, the nonce among it
    rw [List.append_nil, eq_comm, or_iff_left_of_imp]
    rintro rfl
    exact (hs.holds_iff hcall).1 hheld
  · simp [or_and_right, exists_or, NonceStore.keyOf_inj, eq_comm]

end Call.Asks

/-- A call keeps all entries from being over at the time of any call within the lifetime of a
nonce. -/
theorem sustains_verify (hs : s.Sustains calls) (hcall : call ∈ calls)
    (hwithin : ∀ lifetime, config.nonceLifetime = .ok lifetime → Within lifetime calls) :
    (verify config s call).store.Sustains calls := by
  refine ⟨fun c hc => answers_verify (hs.answers c hc) config call, fun e hmem later hlater => ?_⟩
  by_cases hask : ∃ nonce expires, call.Asks config nonce expires
  · obtain ⟨nonce, expires, hask⟩ := hask
    rw [(hask.verify_of_answers (hs.answers call hcall)).2, hs.liveEntries_eq hcall,
      List.mem_append] at hmem
    rcases hmem with hold | hnew
    · exact hs.isLive e hold later hlater
    · split_ifs at hnew
      · cases hnew
      · obtain ⟨lifetime, hlifetime, hexpires, -⟩ := exists_lifetime_of_expiry hask.expiry_eq
        have hclose := hwithin lifetime hlifetime call hcall later hlater
        rw [List.mem_singleton] at hnew
        rw [hnew, NonceStore.isLive_entryFor]
        omega
  · push Not at hask
    rw [store_verify_of_not_asks hask] at hmem
    exact hs.isLive e hmem later hlater

/-! ### Two stores -/

/-- Over two stores that keep the same nonces a call tells the same. -/
theorem told_verify_eq_told_verify (hkeeps : ∀ nonce, s.Keeps nonce ↔ s'.Keeps nonce)
    (hs : s.Sustains calls) (hs' : s'.Sustains calls) (hcall : call ∈ calls) :
    (verify config s call).told = (verify config s' call).told := by
  by_cases hask : ∃ nonce expires, call.Asks config nonce expires
  · obtain ⟨nonce, expires, hask⟩ := hask
    have hholds : s.Holds nonce call.now ↔ s'.Holds nonce call.now := by
      rw [hs.holds_iff hcall, hs'.holds_iff hcall, hkeeps]
    rw [hask.told_verify_eq (hs.answers call hcall), hask.told_verify_eq (hs'.answers call hcall)]
    simp only [hholds]
  · push Not at hask
    exact told_verifyOver_eq hask _ _ _ _

/-- Two stores that keep the same nonces keep the same nonces after a call. -/
theorem keeps_verify_iff_keeps_verify (hkeeps : ∀ nonce, s.Keeps nonce ↔ s'.Keeps nonce)
    (hs : s.Sustains calls) (hs' : s'.Sustains calls) (hcall : call ∈ calls) (nonce : String) :
    (verify config s call).store.Keeps nonce ↔ (verify config s' call).store.Keeps nonce := by
  by_cases hask : ∃ nonce expires, call.Asks config nonce expires
  · obtain ⟨asked, expires, hask⟩ := hask
    rw [hask.keeps_verify_iff hs hcall, hask.keeps_verify_iff hs' hcall, hkeeps]
  · push Not at hask
    rw [store_verify_of_not_asks hask, store_verify_of_not_asks hask]
    exact hkeeps nonce

/-- Over two stores that keep the same nonces calls tell the same, if their reference times lie less
than the lifetime of a nonce apart. -/
theorem told_run_eq_told_run {all : List Call} (hkeeps : ∀ nonce, s.Keeps nonce ↔ s'.Keeps nonce)
    (hs : s.Sustains all) (hs' : s'.Sustains all)
    (hwithin : ∀ lifetime, config.nonceLifetime = .ok lifetime → Within lifetime all)
    (hcalls : ∀ call ∈ calls, call ∈ all) :
    (run config s calls).1.map (·.told) = (run config s' calls).1.map (·.told) := by
  -- that they keep the same nonces, none of them over at any time of a call, stays as it is
  induction calls generalizing s s' with
  | nil => rfl
  | cons call calls ih =>
    rw [List.forall_mem_cons] at hcalls
    obtain ⟨hcall, hrest⟩ := hcalls
    have hhead : (verify config s call).told = (verify config s' call).told :=
      told_verify_eq_told_verify hkeeps hs hs' hcall
    have htail := ih (keeps_verify_iff_keeps_verify hkeeps hs hs' hcall)
      (sustains_verify hs hcall hwithin) (sustains_verify hs' hcall hwithin) hrest
    rw [run_cons, run_cons, List.map_cons, List.map_cons, hhead, htail]

/-- A local store and a remote one, both without entries at first, tell the same over a sequence of
calls whose reference times lie less than the lifetime of a nonce apart, in whatever order, as long
as the remote store answers. -/
theorem told_run_memory_eq_remote {r : RemoteStore} (hempty : r.server.entries = [])
    (hanswers : ∀ call ∈ calls, r.Answers call.caller)
    (hwithin : ∀ lifetime, config.nonceLifetime = .ok lifetime → Within lifetime calls) :
    (run config (.memory .empty) calls).1.map (·.told) =
      (run config (.remote r) calls).1.map (·.told) := by
  have hentries : (NonceStore.remote r).entries = [] := by
    rw [NonceStore.entries, hempty, List.map_nil]
  have hkeeps (nonce : String) :
      (NonceStore.memory .empty).Keeps nonce ↔ (NonceStore.remote r).Keeps nonce :=
    iff_of_false (NonceStore.not_keeps_of_entries_eq_nil rfl)
      (NonceStore.not_keeps_of_entries_eq_nil hentries)
  exact told_run_eq_told_run hkeeps
    (NonceStore.sustains_of_entries_eq_nil rfl fun _ _ => MemoryStore.allAware_empty)
    (NonceStore.sustains_of_entries_eq_nil hentries hanswers) hwithin fun _ => id

/-- The sample message and its other division, at times that go back. -/
def sampleRetreat : List Call :=
  [sampleCall "n" [120, 10, 121] 6, (sampleCall "n\nx" [121] 5).through .awaiting,
    (sampleCall "n" [120, 10, 121] 4).through .awaiting]

theorem sampleRetreat_told :
    sampleShared.server.entries = [] ∧
      (∀ call ∈ sampleRetreat, sampleShared.Answers call.caller) ∧
      sampleConfig.nonceLifetime = .ok (.seconds 600) ∧ Within (.seconds 600) sampleRetreat ∧
      (run sampleConfig (.remote sampleShared) sampleRetreat).1.map (·.told) =
        [(.ok .verified, [.accepted "n"]), (.ok .verified, [.accepted "n\nx"]),
          (.ok (.rejected .replayDetected none), [.rejected .replayDetected (some "n")])] := by
  have hanswers : ∀ call ∈ sampleRetreat, sampleShared.Answers call.caller :=
    fun call _ => isOpen_sampleShared.answers rfl call.caller
  have hlifetime : sampleConfig.nonceLifetime = .ok (.seconds 600) := by decide +kernel
  have hwithin : Within (.seconds 600) sampleRetreat := by
    unfold Within
    decide +kernel
  refine ⟨rfl, hanswers, hlifetime, hwithin, ?_⟩
  rw [← told_run_memory_eq_remote rfl hanswers fun lifetime h => by
    cases hlifetime.symm.trans h
    exact hwithin]
  have hfirst : (sampleCall "n" [120, 10, 121] 6).Asks sampleConfig "n" (sampleMinute 16) :=
    sampleCall_asks_n (by decide)
  have hsecond : ((sampleCall "n\nx" [121] 5).through .awaiting).Asks sampleConfig "n\nx"
      (sampleMinute 15) :=
    sampleCall_asks (by decide) (by decide +kernel) (by decide +kernel)
  have hthird : ((sampleCall "n" [120, 10, 121] 4).through .awaiting).Asks sampleConfig "n"
      (sampleMinute 14) :=
    sampleCall_asks_n (by decide)
  simp only [sampleRetreat, run_cons, run_nil, hfirst.verify_eq, hsecond.verify_eq,
    hthird.verify_eq]
  rfl

end Verifier

end WebhookAuth
