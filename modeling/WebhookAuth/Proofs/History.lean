import WebhookAuth.Proofs.Authenticity
import WebhookAuth.Proofs.Reservation
import WebhookAuth.Proofs.Sequence

/-!
# Histories over the local store

Calls are verified one after another over a local store that starts empty. `resultAt` is the result
of the call at an index and `tableBefore` the store that it finds. A call that is granted a
reservation leaves a record (`Grants.mem_tableBefore`), which stays as long as no call finds it over
(`mem_tableBefore_of_live`); conversely every record is that of an earlier grant
(`exists_grants_of_mem`). Hence a nonce is granted twice only if its first record was over in
between (`Grants.exists_expired`).
-/

namespace WebhookAuth.Verifier

variable {config : Config} {s : MemoryStore} {call : Call} {nonce : String} {expires now : DateTime}

/-! ### One call -/

/-- The call gets as far as the reservation of a nonce. -/
def Call.Asks (config : Config) (call : Call) (nonce : String) (expires : DateTime) : Prop :=
  plan config (call.delivery config) call.now = .ok (.reserve nonce expires)

/-- The local store that a call leaves. -/
def tableAfter (config : Config) (s : MemoryStore) (call : Call) : MemoryStore :=
  match plan config (call.delivery config) call.now with
  | .ok (.reserve nonce expires) => (s.reserve nonce expires call.now).2
  | _ => s

theorem store_verify_memory (config : Config) (s : MemoryStore) (call : Call) :
    (verify config (.memory s) call).store = .memory (tableAfter config s call) := by
  unfold verify verifyOver carryOut tableAfter
  dsimp only
  cases plan config (call.delivery config) call.now with
  | error e => rfl
  | ok p =>
    cases p with
    | reject reason detail => rfl
    | accept => rfl
    | reserve nonce expires =>
      unfold carryOutWith ofReservation NonceStore.reserve
      dsimp only
      cases (s.reserve nonce expires call.now).1 with
      | error e => rfl
      | ok granted => cases granted <;> rfl

namespace Call.Asks

theorem isAware_now (h : call.Asks config nonce expires) : call.now.isAware = true := by
  obtain ⟨⟨_, _, _, hauth⟩, -, -⟩ := of_plan_eq_reserve h
  exact hauth.isAware_now

theorem nonceOf_eq (h : call.Asks config nonce expires) :
    nonceOf config (call.delivery config) = some nonce :=
  (of_plan_eq_reserve h).2.1

theorem expiry_eq (h : call.Asks config nonce expires) : expiry config call.now = .ok expires :=
  (of_plan_eq_reserve h).2.2

theorem isAware_expires (h : call.Asks config nonce expires) : expires.isAware = true := by
  obtain ⟨_, -, -, haware⟩ := exists_lifetime_of_expiry h.expiry_eq
  exact haware.trans h.isAware_now

theorem instant_expires (h : call.Asks config nonce expires) {lifetime : Duration}
    (hlifetime : config.nonceLifetime = .ok lifetime) :
    expires.instant = call.now.instant + lifetime.micros := by
  obtain ⟨lifetime', hlifetime', hinstant, -⟩ := exists_lifetime_of_expiry h.expiry_eq
  cases hlifetime.symm.trans hlifetime'
  exact hinstant

theorem now_lt_expires (h : call.Asks config nonce expires) :
    call.now.instant < expires.instant := by
  obtain ⟨lifetime, hlifetime, hinstant, -⟩ := exists_lifetime_of_expiry h.expiry_eq
  have hpos := Config.lifetime_pos hlifetime
  omega

theorem tableAfter_eq (h : call.Asks config nonce expires) :
    tableAfter config s call = (s.reserve nonce expires call.now).2 := by
  unfold tableAfter
  rw [h]

/-- A nonce is granted exactly if it is not held. -/
theorem reserve_fst (h : call.Asks config nonce expires) (hs : s.AllAware) :
    (s.reserve nonce expires call.now).1 = .ok (decide (¬s.Holds nonce call.now)) := by
  rw [MemoryStore.reserve_fst hs h.isAware_expires h.isAware_now]
  simp only [h.now_lt_expires, true_and]

/-- The verdict is left to the store. -/
theorem result_eq (h : call.Asks config nonce expires) (hs : s.AllAware) :
    (verify config (.memory s) call).result =
      .ok (if s.Holds nonce call.now then .rejected .replayDetected none else .verified) := by
  unfold verify verifyOver
  dsimp only
  rw [h]
  unfold carryOut carryOutWith ofReservation NonceStore.reserve
  dsimp only
  rw [h.reserve_fst hs]
  by_cases hheld : s.Holds nonce call.now
  · rw [if_pos hheld, decide_eq_false (not_not.2 hheld)]
    rfl
  · rw [if_neg hheld, decide_eq_true hheld]
    rfl

end Call.Asks

theorem tableAfter_of_not_asks (h : ∀ nonce expires, ¬call.Asks config nonce expires) :
    tableAfter config s call = s := by
  unfold tableAfter
  split
  · rename_i nonce expires hplan
    exact absurd hplan (h nonce expires)
  · rfl

/-- A call keeps the expiries of all records comparable. -/
theorem allAware_tableAfter (hs : s.AllAware) (call : Call) :
    (tableAfter config s call).AllAware := by
  by_cases h : ∃ nonce expires, call.Asks config nonce expires
  · obtain ⟨nonce, expires, hask⟩ := h
    rw [hask.tableAfter_eq]
    exact MemoryStore.allAware_reserve hs hask.isAware_expires hask.isAware_now
  · push Not at h
    rw [tableAfter_of_not_asks h]
    exact hs

/-- A call keeps the records that are not over at its reference time. -/
theorem mem_tableAfter_of_live (hs : s.AllAware) {r : NonceRecord} (hr : r ∈ s.records)
    (hlive : call.now.instant < r.expires.instant) : r ∈ (tableAfter config s call).records := by
  by_cases h : ∃ nonce expires, call.Asks config nonce expires
  · obtain ⟨nonce, expires, hask⟩ := h
    rw [hask.tableAfter_eq,
      MemoryStore.mem_records_reserve hs hask.isAware_expires hask.isAware_now]
    exact .inl ⟨hr, hlive⟩
  · push Not at h
    rw [tableAfter_of_not_asks h]
    exact hr

/-- The only record that a call adds is that of the nonce it is granted. -/
theorem of_mem_tableAfter (hs : s.AllAware) {r : NonceRecord}
    (hr : r ∈ (tableAfter config s call).records) :
    r ∈ s.records ∨ (call.Asks config r.nonce r.expires ∧ ¬s.Holds r.nonce call.now) := by
  by_cases h : ∃ nonce expires, call.Asks config nonce expires
  · obtain ⟨nonce, expires, hask⟩ := h
    rw [hask.tableAfter_eq,
      MemoryStore.mem_records_reserve hs hask.isAware_expires hask.isAware_now] at hr
    rcases hr with ⟨hmem, -⟩ | ⟨hgranted, rfl⟩
    · exact .inl hmem
    · rw [hask.reserve_fst hs] at hgranted
      exact .inr ⟨hask, of_decide_eq_true (Except.ok.inj hgranted)⟩
  · push Not at h
    rw [tableAfter_of_not_asks h] at hr
    exact .inl hr

/-- Where a nonce is required, a call that is verified has asked for one. -/
theorem exists_asks_of_verified (hpolicy : config.policy = .required) {store : NonceStore}
    (h : (verify config store call).result = .ok .verified) :
    ∃ nonce expires, call.Asks config nonce expires := by
  unfold verify verifyOver at h
  dsimp only at h
  cases hplan : plan config (call.delivery config) call.now with
  | error e => rw [hplan] at h; cases h
  | ok p =>
    cases p with
    | reject reason detail => rw [hplan] at h; cases h
    | accept => exact absurd hplan (plan_ne_accept hpolicy)
    | reserve nonce expires => exact ⟨nonce, expires, hplan⟩

/-! ### Many calls -/

variable {calls : List Call} {i j k : ℕ} {r r' : NonceRecord}

/-- The local store that the call at an index finds. -/
def tableBefore (config : Config) (calls : List Call) (i : ℕ) : MemoryStore :=
  Sequence.before (tableAfter config) id .empty calls i

/-- The result of the call at an index. -/
def resultAt (config : Config) (calls : List Call) (i : ℕ) : Option (Except Fault Verdict) :=
  ((run config (.memory .empty) calls).1[i]?).map (·.result)

theorem fst_run (config : Config) (store : NonceStore) (calls : List Call) :
    (run config store calls).1 = Sequence.results (verify config) (·.store) store calls := by
  induction calls generalizing store with
  | nil => rfl
  | cons call calls ih =>
    rw [run_cons, ih]
    rfl

/-- The store stays local. -/
theorem getElem?_run (config : Config) (calls : List Call) (i : ℕ) :
    (run config (.memory .empty) calls).1[i]? =
      calls[i]?.map (verify config (.memory (tableBefore config calls i))) := by
  rw [fst_run, Sequence.getElem?_results, tableBefore,
    Sequence.before_map _ _ (tableAfter config) id _ (store_verify_memory config)]

theorem resultAt_eq (h : calls[i]? = some call) :
    resultAt config calls i =
      some (verify config (.memory (tableBefore config calls i)) call).result := by
  rw [resultAt, getElem?_run, h, Option.map_some, Option.map_some]

theorem tableBefore_succ (h : calls[i]? = some call) :
    tableBefore config calls (i + 1) = tableAfter config (tableBefore config calls i) call :=
  Sequence.before_succ _ _ h

theorem tableBefore_succ_of_none (h : calls[i]? = none) :
    tableBefore config calls (i + 1) = tableBefore config calls i :=
  Sequence.before_succ_of_none _ _ h

theorem allAware_tableBefore (config : Config) (calls : List Call) (i : ℕ) :
    (tableBefore config calls i).AllAware := by
  induction i with
  | zero => exact MemoryStore.allAware_empty
  | succ i ih =>
    cases h : calls[i]? with
    | none => rw [tableBefore_succ_of_none h]; exact ih
    | some call => rw [tableBefore_succ h]; exact allAware_tableAfter ih call

/-- The verdict on a call that asks for a nonce. -/
theorem Call.Asks.resultAt_eq (h : call.Asks config nonce expires) (hcall : calls[i]? = some call) :
    resultAt config calls i = some (.ok (if (tableBefore config calls i).Holds nonce call.now then
      .rejected .replayDetected none else .verified)) := by
  rw [Verifier.resultAt_eq hcall, h.result_eq (allAware_tableBefore config calls i)]

/-- A record stays as long as no call finds it over. -/
theorem mem_tableBefore_of_live (hij : i ≤ j) (hr : r ∈ (tableBefore config calls i).records)
    (hlive : ∀ k call, i ≤ k → k < j → calls[k]? = some call →
      call.now.instant < r.expires.instant) : r ∈ (tableBefore config calls j).records := by
  -- a call sweeps even if its nonce is refused, so all calls in between count
  induction j, hij using Nat.le_induction with
  | base => exact hr
  | succ j hij ih =>
    have hmem := ih fun k call hik hkj => hlive k call hik (by omega)
    cases h : calls[j]? with
    | none => rw [tableBefore_succ_of_none h]; exact hmem
    | some call =>
      rw [tableBefore_succ h]
      exact mem_tableAfter_of_live (allAware_tableBefore config calls j) hmem
        (hlive j call hij (by omega) h)

/-! ### Grants -/

/-- The call at an index is granted the reservation of a nonce, with this record. -/
def Grants (config : Config) (calls : List Call) (i : ℕ) (r : NonceRecord) : Prop :=
  ∃ call, calls[i]? = some call ∧ call.Asks config r.nonce r.expires ∧
    ¬(tableBefore config calls i).Holds r.nonce call.now

theorem Grants.asks (h : Grants config calls i r) (hcall : calls[i]? = some call) :
    call.Asks config r.nonce r.expires := by
  obtain ⟨granted, hgranted, hask, -⟩ := h
  cases hcall.symm.trans hgranted
  exact hask

/-- Where a nonce is required, the calls that are verified are those that are granted one. -/
theorem resultAt_eq_verified_iff (hpolicy : config.policy = .required) :
    resultAt config calls i = some (.ok .verified) ↔ ∃ r, Grants config calls i r := by
  constructor
  · intro h
    cases hcall : calls[i]? with
    | none => rw [resultAt, getElem?_run, hcall] at h; cases h
    | some call =>
      rw [resultAt_eq hcall, Option.some.injEq] at h
      obtain ⟨nonce, expires, hask⟩ := exists_asks_of_verified hpolicy h
      refine ⟨⟨nonce, expires⟩, call, hcall, hask, fun hheld => ?_⟩
      rw [hask.result_eq (allAware_tableBefore config calls i), if_pos hheld] at h
      cases h
  · rintro ⟨r, call, hcall, hask, hfree⟩
    rw [hask.resultAt_eq hcall, if_neg hfree]

/-- A grant leaves its record. -/
theorem Grants.mem_tableBefore (h : Grants config calls i r) :
    r ∈ (tableBefore config calls (i + 1)).records := by
  obtain ⟨call, hcall, hask, hfree⟩ := h
  have hs := allAware_tableBefore config calls i
  rw [tableBefore_succ hcall, hask.tableAfter_eq,
    MemoryStore.mem_records_reserve hs hask.isAware_expires hask.isAware_now]
  refine .inr ⟨?_, rfl⟩
  rw [hask.reserve_fst hs, decide_eq_true hfree]

/-- Every record is that of an earlier grant. -/
theorem exists_grants_of_mem (h : r ∈ (tableBefore config calls j).records) :
    ∃ i < j, Grants config calls i r := by
  induction j with
  | zero => cases h
  | succ j ih =>
    cases hcall : calls[j]? with
    | none =>
      rw [tableBefore_succ_of_none hcall] at h
      obtain ⟨i, hij, hi⟩ := ih h
      exact ⟨i, by omega, hi⟩
    | some call =>
      rw [tableBefore_succ hcall] at h
      rcases of_mem_tableAfter (allAware_tableBefore config calls j) h with hmem | ⟨hask, hfree⟩
      · obtain ⟨i, hij, hi⟩ := ih hmem
        exact ⟨i, by omega, hi⟩
      · exact ⟨j, by omega, call, hcall, hask, hfree⟩

/-- A nonce is held by a later call unless a call in between, or the later one, finds the record of
its grant over. -/
theorem Grants.holds (h : Grants config calls i r) (hij : i < j) (hcall : calls[j]? = some call)
    (hlive : ∀ k between, i < k → k ≤ j → calls[k]? = some between →
      between.now.instant < r.expires.instant) :
    (tableBefore config calls j).Holds r.nonce call.now := by
  refine ⟨r, ?_, rfl, hlive j call hij le_rfl hcall⟩
  exact mem_tableBefore_of_live hij h.mem_tableBefore fun k between hik hkj hk =>
    hlive k between hik (by omega) hk

/-- A nonce is granted twice only if its first record was over in between. -/
theorem Grants.exists_expired (h : Grants config calls i r) (h' : Grants config calls j r')
    (hij : i < j) (hnonce : r'.nonce = r.nonce) :
    ∃ k between, i < k ∧ k ≤ j ∧ calls[k]? = some between ∧
      r.expires.instant ≤ between.now.instant := by
  obtain ⟨call, hcall, -, hfree⟩ := h'
  by_contra hnever
  push Not at hnever
  rw [hnonce] at hfree
  exact hfree (h.holds hij hcall hnever)

/-- A nonce that is held comes from an earlier grant that is not over. -/
theorem exists_grants_of_holds (h : (tableBefore config calls j).Holds nonce now) :
    ∃ i < j, ∃ r, Grants config calls i r ∧ r.nonce = nonce ∧ now.instant < r.expires.instant := by
  obtain ⟨r, hmem, hnonce, hlive⟩ := h
  obtain ⟨i, hij, hi⟩ := exists_grants_of_mem hmem
  exact ⟨i, hij, r, hi, hnonce, hlive⟩

/-! ### A sample -/

/-- A configuration that wants a nonce and tolerates five minutes of skew, and no age beyond. -/
def sampleConfig : Config where
  secret := [107]
  skew := .seconds 300
  maxAge := none
  policy := .required
  nonceTtl := none
  names := {}
  secret_ne_nil := by decide
  skew_nonneg := by decide
  maxAge_nonneg := by intro age h; cases h
  nonceTtl_pos := by intro ttl h; cases h

/-- A minute of the first hour of 1970 in UTC; from 60 on they are counted anew. -/
def sampleMinute (m : ℕ) : DateTime :=
  ⟨epochWall + m % 60 * 60000000, some .utc, by unfold epochWall wallLimit; omega⟩

/-- The lines `300`, `n`, `x` and `y`. -/
def sampleMessage : Bytes := [51, 48, 48, 10, 110, 10, 120, 10, 121]

/-- The tag of the sample message. -/
def sampleSignature : String := "LNFIC13f0nP6bsK8PYcurHf0p+RePoCnoESKpikzLCA="

/-- A call in a minute of a delivery for the fifth minute, with the sample signature. -/
def sampleCall (nonce : String) (body : Bytes) (m : ℕ) : Call where
  caller := .blocking
  body := body
  fields := [("X-Swish-Timestamp", "300"), ("X-Swish-Nonce", nonce),
    ("X-Swish-Signature", sampleSignature)]
  now := sampleMinute m

theorem isValid_sampleSignature :
    Signature.isValid sampleConfig.secret sampleMessage sampleSignature = .ok true := by
  decide +kernel

theorem isWithinWindow_sampleMinute :
    ∀ m < 11, Timestamp.isWithinWindow (sampleMinute 5) (sampleMinute m) sampleConfig.skew
      sampleConfig.maxAge = .ok true := by
  decide +kernel

theorem expiry_sampleMinute :
    ∀ m < 11, expiry sampleConfig (sampleMinute m) = .ok (sampleMinute (m + 10)) := by
  decide +kernel

theorem nonceLifetime_sampleConfig : sampleConfig.nonceLifetime = .ok (.seconds 600) := by
  decide +kernel

/-- A call that carries the sample message in the first ten minutes asks for its nonce. -/
theorem sampleCall_asks {nonce : String} {body : Bytes} {m : ℕ} (hm : m < 11)
    (hdelivery : Delivery.ofFields sampleConfig.names body [("X-Swish-Timestamp", "300"),
      ("X-Swish-Nonce", nonce), ("X-Swish-Signature", sampleSignature)] =
        ⟨body, some "300", some sampleSignature, some nonce⟩)
    (hmessage : Signature.canonicalMessage "300" (some nonce) body = sampleMessage) :
    (sampleCall nonce body m).Asks sampleConfig nonce (sampleMinute (m + 10)) := by
  have hauth : Authentic sampleConfig ⟨body, some "300", some sampleSignature, some nonce⟩
      (sampleMinute m) "300" sampleSignature (sampleMinute 5) :=
    { timestamp_eq := rfl
      signature_eq := rfl
      nonce_isSome := fun _ => rfl
      read_eq := by decide +kernel
      window_eq := isWithinWindow_sampleMinute m hm
      valid := by
        rw [signedMessage, nonceOf_of_required rfl, hmessage]
        exact isValid_sampleSignature }
  have hdelivery : (sampleCall nonce body m).delivery sampleConfig =
      ⟨body, some "300", some sampleSignature, some nonce⟩ := hdelivery
  rw [Call.Asks, hdelivery]
  exact hauth.plan_eq.trans (planReservation_eq_reserve_iff.2 ⟨rfl, expiry_sampleMinute m hm⟩)

theorem sampleCall_asks_n {m : ℕ} (hm : m < 11) :
    (sampleCall "n" [120, 10, 121] m).Asks sampleConfig "n" (sampleMinute (m + 10)) :=
  sampleCall_asks hm (by decide +kernel) (by decide +kernel)

end WebhookAuth.Verifier
