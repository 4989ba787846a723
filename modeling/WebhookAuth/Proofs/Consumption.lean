import WebhookAuth.Proofs.Course
import WebhookAuth.Proofs.Entries

/-!
# Which nonces are consumed

Over a course of calls on a store that starts empty, the nonces that the store keeps are those of
deliveries that were verified. A call adds an entry just if it is verified with a nonce that counts
under its policy (`Consumes`), and it answers with a replay only if an earlier call has consumed the
nonce (`consumes_accounts`). Times need not be in order, and a server that fails stores nothing.
-/

namespace WebhookAuth

namespace NonceStore

variable {s : NonceStore} {mode : ServerMode} {nonce : String} {expires now : DateTime}
  {e : StoreEntry}

theorem resembles_inMode (s : NonceStore) (mode : ServerMode) : s.Resembles (s.inMode mode) := by
  cases s <;> exact ⟨rfl, rfl, id⟩

@[simp] theorem entries_inMode (s : NonceStore) (mode : ServerMode) :
    (s.inMode mode).entries = s.entries := by
  cases s <;> rfl

@[simp] theorem keyOf_inMode (s : NonceStore) (mode : ServerMode) :
    (s.inMode mode).keyOf = s.keyOf := by
  cases s <;> rfl

@[simp] theorem entryFor_inMode (s : NonceStore) (mode : ServerMode) :
    (s.inMode mode).entryFor = s.entryFor := by
  cases s <;> rfl

@[simp] theorem comparable_inMode : (s.inMode mode).Comparable ↔ s.Comparable := by
  cases s <;> rfl

@[simp] theorem holds_inMode : (s.inMode mode).Holds nonce now ↔ s.Holds nonce now := by
  simp only [Holds, entries_inMode, keyOf_inMode]

@[simp] theorem liveEntries_inMode : (s.inMode mode).liveEntries now = s.liveEntries now := by
  simp only [liveEntries, entries_inMode]

theorem mem_of_mem_liveEntries (h : e ∈ s.liveEntries now) : e ∈ s.entries :=
  List.mem_of_mem_filter h

theorem comparable_of_entries_eq_nil (h : s.entries = []) : s.Comparable := by
  cases s with
  | memory s =>
    intro r hr
    have hmem : (⟨r.nonce, .inl r.expires⟩ : StoreEntry) ∈ (memory s).entries :=
      List.mem_map_of_mem hr
    rw [h] at hmem
    cases hmem
  | remote s => trivial

/-- The entry of a nonce that is not held is not there yet. -/
theorem entryFor_not_mem (hfree : ¬s.Holds nonce now) (hlt : now.instant < expires.instant) :
    s.entryFor nonce expires now ∉ s.entries := fun hmem =>
  hfree ⟨_, hmem, key_entryFor, isLive_entryFor hlt⟩

end NonceStore

namespace Verifier

variable {config : Config} {call : Call} {s : NonceStore} {nonce : String}

/-- A call that asks for no nonce is no replay, and no nonce counts if it is verified. -/
theorem result_of_not_asks (s : NonceStore) (h : ∀ nonce expires, ¬call.Asks config nonce expires) :
    ¬IsReplay (verify config s call).result ∧
      ((verify config s call).result = .ok .verified →
        nonceOf config (call.delivery config) = none) := by
  unfold verify verifyOver
  dsimp only
  cases hplan : plan config (call.delivery config) call.now with
  | error fault =>
    refine ⟨?_, fun hverified => by cases hverified⟩
    rintro ⟨detail, hreplay⟩
    cases hreplay
  | ok p =>
    cases p with
    | reject reason detail =>
      refine ⟨?_, fun hverified => by cases hverified⟩
      rintro ⟨detail', hreplay⟩
      cases hreplay
      exact absurd (reason_mem_early hplan) (by decide)
    | accept =>
      obtain ⟨timestamp, signature, declared, hauth⟩ :=
        exists_authentic_of_plan hplan fun _ _ => by simp
      rw [hauth.plan_eq, planReservation_eq_accept_iff] at hplan
      refine ⟨?_, fun _ => hplan⟩
      rintro ⟨detail, hreplay⟩
      cases hreplay
    | reserve nonce expires => exact absurd hplan (h nonce expires)

/-! ### A course of calls -/

variable {start : NonceStore} {turn : Turn} {turns : List Turn} {k : ℕ} {e : StoreEntry}

/-- The store that the call at an index finds. -/
def storeBefore (start : NonceStore) (turns : List Turn) (k : ℕ) : NonceStore :=
  Sequence.before (fun store (turn : Turn) => turn.outcome store) (·.store) start turns k

theorem storeBefore_succ (h : turns[k]? = some turn) :
    storeBefore start turns (k + 1) = (turn.outcome (storeBefore start turns k)).store :=
  Sequence.before_succ _ _ h

theorem storeBefore_succ_of_none (h : turns[k]? = none) :
    storeBefore start turns (k + 1) = storeBefore start turns k :=
  Sequence.before_succ_of_none _ _ h

theorem getElem?_course (start : NonceStore) (turns : List Turn) (k : ℕ) :
    (course start turns)[k]? = turns[k]?.map (·.outcome (storeBefore start turns k)) :=
  Sequence.getElem?_results _ _ start turns k

/-- The call at an index is verified with a nonce that counts under its policy. -/
def Consumes (start : NonceStore) (turns : List Turn) (k : ℕ) (nonce : String) : Prop :=
  ∃ turn outcome, turns[k]? = some turn ∧ (course start turns)[k]? = some outcome ∧
    outcome.result = .ok .verified ∧ turn.config.policy ≠ .disabled ∧
    (turn.call.delivery turn.config).nonce = some nonce

theorem consumes_iff (h : turns[k]? = some turn) :
    Consumes start turns k nonce ↔
      (turn.outcome (storeBefore start turns k)).result = .ok .verified ∧
        nonceOf turn.config (turn.call.delivery turn.config) = some nonce := by
  unfold Consumes
  rw [getElem?_course, h, nonceOf_eq_some_iff]
  simp

/-- A call consumes a nonce, and adds its entry; or it finds the nonce held and is a replay; or it
is neither and leaves the entries as they are. -/
theorem Turn.outcome_cases (turn : Turn) (hs : s.Comparable) :
    (∃ nonce expires, (turn.outcome s).result = .ok .verified ∧
        nonceOf turn.config (turn.call.delivery turn.config) = some nonce ∧
        expiry turn.config turn.call.now = .ok expires ∧
        turn.call.now.instant < expires.instant ∧ ¬s.Holds nonce turn.call.now ∧
        (turn.outcome s).store.entries =
          s.liveEntries turn.call.now ++ [s.entryFor nonce expires turn.call.now]) ∨
      (∃ nonce, (turn.outcome s).result = .ok (.rejected .replayDetected none) ∧
        nonceOf turn.config (turn.call.delivery turn.config) = some nonce ∧
        s.Holds nonce turn.call.now ∧
        (turn.outcome s).store.entries = s.liveEntries turn.call.now) ∨
      (¬IsReplay (turn.outcome s).result ∧
        ((turn.outcome s).result = .ok .verified →
          nonceOf turn.config (turn.call.delivery turn.config) = none) ∧
        (turn.outcome s).store.entries = s.entries) := by
  have hmode : (s.inMode turn.mode).Comparable := NonceStore.comparable_inMode.2 hs
  unfold Turn.outcome
  by_cases hask : ∃ nonce expires, turn.call.Asks turn.config nonce expires
  · obtain ⟨nonce, expires, hask⟩ := hask
    rcases hask.verify_cases hmode with ⟨hresult, hfree, hentries⟩ | ⟨hresult, hheld, hentries⟩ |
      ⟨-, hverified, hreplay, hstore⟩
    · rw [NonceStore.holds_inMode] at hfree
      rw [NonceStore.liveEntries_inMode, NonceStore.entryFor_inMode] at hentries
      exact .inl ⟨nonce, expires, hresult, hask.nonceOf_eq, hask.expiry_eq, hask.now_lt_expires,
        hfree, hentries⟩
    · rw [NonceStore.holds_inMode] at hheld
      rw [NonceStore.liveEntries_inMode] at hentries
      exact .inr (.inl ⟨nonce, hresult, hask.nonceOf_eq, hheld, hentries⟩)
    · refine .inr (.inr ⟨hreplay, fun h => absurd h hverified, ?_⟩)
      rw [hstore, NonceStore.entries_inMode]
  · push Not at hask
    obtain ⟨hreplay, hnone⟩ := result_of_not_asks (s.inMode turn.mode) hask
    refine .inr (.inr ⟨hreplay, hnone, ?_⟩)
    rw [store_verify_of_not_asks hask, NonceStore.entries_inMode]

/-- The store stays of its kind and keeps its keys. -/
theorem resembles_storeBefore (start : NonceStore) (turns : List Turn) (k : ℕ) :
    start.Resembles (storeBefore start turns k) := by
  induction k with
  | zero => exact .refl start
  | succ k ih =>
    cases h : turns[k]? with
    | none => rwa [storeBefore_succ_of_none h]
    | some turn =>
      rw [storeBefore_succ h]
      exact (ih.trans (NonceStore.resembles_inMode _ turn.mode)).trans (resembles_verify _ _ _)

/-- A call adds an entry just for the nonce that it consumes. -/
theorem new_entry_iff (hs : (storeBefore start turns k).Comparable) (h : turns[k]? = some turn) :
    (e ∈ (storeBefore start turns (k + 1)).entries ∧ e ∉ (storeBefore start turns k).entries) ↔
      ∃ nonce expires, Consumes start turns k nonce ∧
        expiry turn.config turn.call.now = .ok expires ∧
        e = start.entryFor nonce expires turn.call.now := by
  rw [storeBefore_succ h, ← (resembles_storeBefore start turns k).entryFor_eq]
  simp only [consumes_iff h]
  rcases turn.outcome_cases hs with
    ⟨nonce, expires, hresult, hnonce, hexpiry, hlt, hfree, hentries⟩ |
    ⟨nonce, hresult, hnonce, hheld, hentries⟩ | ⟨-, hnone, hentries⟩
  · rw [hentries, List.mem_append, List.mem_singleton]
    constructor
    · rintro ⟨hlive | rfl, hnew⟩
      · exact absurd (NonceStore.mem_of_mem_liveEntries hlive) hnew
      · exact ⟨nonce, expires, ⟨hresult, hnonce⟩, hexpiry, rfl⟩
    · rintro ⟨nonce', expires', ⟨-, hnonce'⟩, hexpiry', rfl⟩
      cases hnonce.symm.trans hnonce'
      cases hexpiry.symm.trans hexpiry'
      exact ⟨.inr rfl, NonceStore.entryFor_not_mem hfree hlt⟩
  · rw [hentries, hresult]
    constructor
    · rintro ⟨hlive, hnew⟩
      exact absurd (NonceStore.mem_of_mem_liveEntries hlive) hnew
    · rintro ⟨nonce', expires', ⟨hverified, -⟩, -, -⟩
      cases hverified
  · rw [hentries]
    constructor
    · rintro ⟨hold, hnew⟩
      exact absurd hold hnew
    · rintro ⟨nonce', expires', ⟨hverified, hnonce'⟩, -, -⟩
      rw [hnone hverified] at hnonce'
      cases hnonce'

/-- A call that consumes a nonce adds an entry with its key. -/
theorem Consumes.exists_new_entry (hc : Consumes start turns k nonce)
    (hs : (storeBefore start turns k).Comparable) :
    ∃ e ∈ (storeBefore start turns (k + 1)).entries, e ∉ (storeBefore start turns k).entries ∧
      e.key = start.keyOf nonce := by
  obtain ⟨turn, outcome, h, -⟩ := id hc
  obtain ⟨hverified, hnonce⟩ := (consumes_iff h).1 hc
  rcases turn.outcome_cases hs with ⟨nonce', expires, -, hnonce', hexpiry, -⟩ |
    ⟨nonce', hresult, -⟩ | ⟨-, hnone, -⟩
  · obtain ⟨hmem, hnew⟩ := (new_entry_iff hs h).2 ⟨nonce, expires, hc, hexpiry, rfl⟩
    exact ⟨_, hmem, hnew, NonceStore.key_entryFor⟩
  · rw [hresult] at hverified
    cases hverified
  · rw [hnone hverified] at hnonce
    cases hnonce

/-- Every entry belongs to a nonce that an earlier call has consumed. -/
theorem exists_consumes_of_mem (hempty : start.entries = [])
    (he : e ∈ (storeBefore start turns k).entries) :
    ∃ i < k, ∃ nonce, Consumes start turns i nonce ∧ e.key = start.keyOf nonce := by
  have hs (k : ℕ) : (storeBefore start turns k).Comparable :=
    (resembles_storeBefore start turns k).comparable
      (NonceStore.comparable_of_entries_eq_nil hempty)
  induction k with
  | zero =>
    rw [show (storeBefore start turns 0).entries = [] from hempty] at he
    cases he
  | succ k ih =>
    by_cases hold : e ∈ (storeBefore start turns k).entries
    · obtain ⟨i, hik, hi⟩ := ih hold
      exact ⟨i, by omega, hi⟩
    · cases h : turns[k]? with
      | none =>
        rw [storeBefore_succ_of_none h] at he
        exact absurd he hold
      | some turn =>
        obtain ⟨nonce, expires, hc, -, rfl⟩ := (new_entry_iff (hs k) h).1 ⟨he, hold⟩
        exact ⟨k, by omega, nonce, hc, NonceStore.key_entryFor⟩

/-- Over a store that starts empty, a call adds an entry for a nonce just if it consumes the nonce,
and with the expiry that its configuration gives; every entry is that of a consumed nonce; and a
replay is a delivery whose nonce an earlier call has consumed. -/
theorem consumes_accounts (hempty : start.entries = []) (hturn : turns[k]? = some turn) :
    (∀ nonce, Consumes start turns k nonce ↔
      ∃ e ∈ (storeBefore start turns (k + 1)).entries,
        e ∉ (storeBefore start turns k).entries ∧ e.key = start.keyOf nonce) ∧
    (∀ e ∈ (storeBefore start turns (k + 1)).entries, e ∉ (storeBefore start turns k).entries →
      ∃ nonce expires, Consumes start turns k nonce ∧
        expiry turn.config turn.call.now = .ok expires ∧
        e = start.entryFor nonce expires turn.call.now) ∧
    (∀ e ∈ (storeBefore start turns (k + 1)).entries,
      ∃ i ≤ k, ∃ nonce, Consumes start turns i nonce ∧ e.key = start.keyOf nonce) ∧
    (∀ outcome, (course start turns)[k]? = some outcome → IsReplay outcome.result →
      ∃ i < k, ∃ nonce, (turn.call.delivery turn.config).nonce = some nonce ∧
        Consumes start turns i nonce) := by
  have hs : (storeBefore start turns k).Comparable :=
    (resembles_storeBefore start turns k).comparable
      (NonceStore.comparable_of_entries_eq_nil hempty)
  refine ⟨fun nonce => ⟨fun hc => hc.exists_new_entry hs, ?_⟩, ?_, ?_, ?_⟩
  · rintro ⟨e, he, hnew, hkey⟩
    obtain ⟨nonce', expires, hc, -, rfl⟩ := (new_entry_iff hs hturn).1 ⟨he, hnew⟩
    rw [NonceStore.key_entryFor, NonceStore.keyOf_inj] at hkey
    exact hkey ▸ hc
  · intro e he hnew
    exact (new_entry_iff hs hturn).1 ⟨he, hnew⟩
  · intro e he
    obtain ⟨i, hik, hi⟩ := exists_consumes_of_mem hempty he
    exact ⟨i, by omega, hi⟩
  · intro outcome houtcome hreplay
    rw [getElem?_course, hturn, Option.map_some, Option.some.injEq] at houtcome
    subst houtcome
    rcases turn.outcome_cases hs with ⟨nonce, expires, hresult, -⟩ |
      ⟨nonce, -, hnonce, ⟨e, he, hkey, -⟩, -⟩ | ⟨hnot, -⟩
    · obtain ⟨detail, hdetail⟩ := hreplay
      rw [hresult] at hdetail
      cases hdetail
    · -- the entry that holds the nonce comes from an earlier call
      obtain ⟨i, hik, nonce', hc, hkey'⟩ := exists_consumes_of_mem hempty he
      rw [(resembles_storeBefore start turns k).keyOf_eq, hkey', NonceStore.keyOf_inj] at hkey
      exact ⟨i, hik, nonce, (nonceOf_eq_some_iff.1 hnonce).2, hkey ▸ hc⟩
    · exact absurd hreplay hnot

/-- A remote store with a blocking client and no keys. -/
def sampleRemote : RemoteStore where
  blockingClient := some {}
  awaitingClient := none
  keyStart := RemoteStore.defaultKeyStart
  maxTtl := RemoteStore.defaultMaxTtl
  timeout := none
  server := {}
  maxTtl_pos := by decide

/-- The sample delivery during an outage of the server, and after it. -/
def sampleOutage : List Turn :=
  [⟨sampleConfig, .refusingConnections, sampleCall "n" [120, 10, 121] 5⟩,
    ⟨sampleConfig, .answering, sampleCall "n" [120, 10, 121] 6⟩]

/-- The outage does not use up the nonce. -/
theorem sampleOutage_accounts :
    (NonceStore.remote sampleRemote).entries = [] ∧
      sampleOutage[1]? = some ⟨sampleConfig, .answering, sampleCall "n" [120, 10, 121] 6⟩ ∧
      ∃ e ∈ (storeBefore (.remote sampleRemote) sampleOutage 2).entries,
        e ∉ (storeBefore (.remote sampleRemote) sampleOutage 1).entries ∧
        e.key = "swish:nonce:n" := by
  have hask : (sampleCall "n" [120, 10, 121] 5).Asks sampleConfig "n" (sampleMinute 15) :=
    sampleCall_asks (by decide) (by decide +kernel) (by decide +kernel)
  have hask' : (sampleCall "n" [120, 10, 121] 6).Asks sampleConfig "n" (sampleMinute 16) :=
    sampleCall_asks (by decide) (by decide +kernel) (by decide +kernel)
  have hturn : sampleOutage[0]? =
      some ⟨sampleConfig, .refusingConnections, sampleCall "n" [120, 10, 121] 5⟩ := rfl
  have hstore : storeBefore (.remote sampleRemote) sampleOutage 1 =
      (NonceStore.remote sampleRemote).inMode .refusingConnections := by
    rw [storeBefore_succ hturn, Turn.outcome, hask.verify_eq]
    rfl
  have hconsumes : Consumes (.remote sampleRemote) sampleOutage 1 "n" := by
    rw [consumes_iff rfl, hstore]
    refine ⟨?_, hask'.nonceOf_eq⟩
    unfold Turn.outcome
    rw [hask'.verify_eq]
    rfl
  exact ⟨rfl, rfl, ((consumes_accounts rfl rfl).1 "n").1 hconsumes⟩

end Verifier

end WebhookAuth
