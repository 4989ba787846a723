import WebhookAuth.Proofs.Consumption
import WebhookAuth.Proofs.HeaderLookup
import WebhookAuth.Proofs.Interleaving

/-!
# Simultaneous deliveries

Authentic deliveries that carry nonces are verified at one reference time, over a store that answers
each of their callers. Of the deliveries with a nonce that is not held the first that settles is
verified, and every other delivery is a replay. What the store keeps in the end follows from the
nonces of the deliveries (`Traffic.entries_of_settledAt`), and so not from the interleaving
(`batch_settled`).
-/

namespace WebhookAuth

namespace NonceStore

variable {s t : NonceStore} {nonce : String} {now : DateTime}

/-- The nonces of a list that are not held at a time, each once. -/
def free (s : NonceStore) (now : DateTime) (nonces : List String) : List String :=
  nonces.dedup.filter fun nonce => ¬s.Holds nonce now

@[simp] theorem mem_free {nonces : List String} :
    nonce ∈ s.free now nonces ↔ nonce ∈ nonces ∧ ¬s.Holds nonce now := by
  simp [free]

theorem nodup_free (s : NonceStore) (now : DateTime) (nonces : List String) :
    (s.free now nonces).Nodup :=
  (List.nodup_dedup nonces).filter _

theorem free_perm {nonces nonces' : List String} (h : nonces.Perm nonces') :
    (s.free now nonces).Perm (s.free now nonces') :=
  h.dedup.filter _

/-- The first of some nonces is free if it is not held; the others go on from a store that holds it
as well. -/
theorem free_cons_perm (h : ∀ n, t.Holds n now ↔ s.Holds n now ∨ n = nonce)
    (nonces : List String) :
    (s.free now (nonce :: nonces)).Perm
      ((if s.Holds nonce now then [] else [nonce]) ++ t.free now nonces) := by
  have hnot : nonce ∉ t.free now nonces := by
    rw [mem_free, h]
    simp
  refine (List.perm_ext_iff_of_nodup (nodup_free _ _ _) ?_).2 fun n => ?_
  · split_ifs
    · exact nodup_free _ _ _
    · exact List.nodup_cons.2 ⟨hnot, nodup_free _ _ _⟩
  · rw [mem_free, List.mem_cons, List.mem_append, mem_free, h]
    by_cases hn : n = nonce
    · subst hn
      split_ifs with hheld <;> simp [hheld]
    · split_ifs <;> simp [hn]

end NonceStore

namespace Verifier

variable {config : Config} {call : Call} {s s' : NonceStore} {nonce n : String}
  {now expires : DateTime} {x y : Settlement} {l : List Settlement}

/-! ### One call -/

/-- An authentic call asks for its nonce if the policy wants one. -/
theorem Call.IsAuthentic.asks (h : call.IsAuthentic config) (hpolicy : config.policy ≠ .disabled)
    (hnonce : (call.delivery config).nonce = some nonce)
    (hexpiry : expiry config call.now = .ok expires) : call.Asks config nonce expires := by
  obtain ⟨timestamp, signature, declared, hauth⟩ := h
  rw [Call.Asks, hauth.plan_eq, planReservation_eq_reserve_iff]
  exact ⟨nonceOf_eq_some_iff.2 ⟨hpolicy, hnonce⟩, hexpiry⟩

/-- Without an expiry for its nonce an authentic call has no verdict. -/
theorem Call.IsAuthentic.result_of_expiry_error {e : TimeError} (h : call.IsAuthentic config)
    (hpolicy : config.policy ≠ .disabled) (hnonce : (call.delivery config).nonce = some nonce)
    (hexpiry : expiry config call.now = .error e) (s : NonceStore) :
    (verify config s call).result = .error (.time e) := by
  obtain ⟨timestamp, signature, declared, hauth⟩ := h
  have hplan : plan config (call.delivery config) call.now = .error (.time e) := by
    rw [hauth.plan_eq, planReservation, nonceOf_eq_some_iff.2 ⟨hpolicy, hnonce⟩, hexpiry]
  unfold verify verifyOver
  dsimp only
  rw [hplan]
  rfl

/-- After the call its nonce is held as well. -/
theorem Call.Asks.holds_verify_iff (h : call.Asks config nonce expires)
    (hs : s.Answers call.caller) :
    (verify config s call).store.Holds n call.now ↔ s.Holds n call.now ∨ n = nonce := by
  have hlive : (∃ e ∈ s.liveEntries call.now, e.key = s.keyOf n ∧ e.isLive call.now = true) ↔
      s.Holds n call.now := by
    simp only [NonceStore.liveEntries, List.mem_filter, NonceStore.Holds, and_assoc]
    refine exists_congr fun e => and_congr_right fun _ => ?_
    exact ⟨fun h => h.2, fun h => ⟨h.2, h⟩⟩
  rw [NonceStore.Holds, (h.verify_of_answers hs).2, (resembles_verify config s call).keyOf_eq]
  simp only [List.mem_append, or_and_right, exists_or]
  rw [hlive]
  by_cases hheld : s.Holds nonce call.now
  · rw [if_pos hheld]
    simp only [List.not_mem_nil, false_and, exists_false, or_false]
    exact ⟨.inl, fun h => h.elim id fun hn => hn ▸ hheld⟩
  · rw [if_neg hheld]
    simp only [List.mem_singleton, exists_eq_left, NonceStore.key_entryFor, NonceStore.keyOf_inj,
      NonceStore.isLive_entryFor h.now_lt_expires, and_true]
    exact or_congr_right eq_comm

/-- A call that asks for a nonce leaves no entry that is over. -/
theorem Call.Asks.liveEntries_verify (h : call.Asks config nonce expires)
    (hs : s.Answers call.caller) :
    (verify config s call).store.liveEntries call.now = (verify config s call).store.entries := by
  refine List.filter_eq_self.2 fun e he => ?_
  rw [(h.verify_of_answers hs).2, List.mem_append] at he
  rcases he with he | he
  · exact (List.mem_filter.1 he).2
  · split_ifs at he
    · cases he
    · rw [List.mem_singleton.1 he]
      exact NonceStore.isLive_entryFor h.now_lt_expires

/-! ### Calls one after another -/

namespace Settlement

/-- The call asks for a nonce at the time, and the store answers its caller. -/
structure AsksAt (config : Config) (s : NonceStore) (now expires : DateTime) (x : Settlement) :
    Prop where
  now_eq : x.call.now = now
  asks : ∃ nonce, x.call.Asks config nonce expires
  answers : s.Answers x.call.caller

/-- The call is verified if its nonce is not held, and a replay if it is. It leaves the entries that
are not over, and its own if it is verified. -/
structure Decides (config : Config) (s : NonceStore) (now expires : DateTime) (x : Settlement)
    (nonce : String) : Prop where
  nonce_eq : x.nonce? config = some nonce
  result_eq : x.outcome.result =
    .ok (if s.Holds nonce now then .rejected .replayDetected none else .verified)
  liveEntries_eq : x.outcome.store.liveEntries now =
    s.liveEntries now ++ if s.Holds nonce now then [] else [s.entryFor nonce expires now]
  entries_eq : x.outcome.store.entries = x.outcome.store.liveEntries now
  entryFor_eq : x.outcome.store.entryFor = s.entryFor
  holds_iff : ∀ n, x.outcome.store.Holds n now ↔ s.Holds n now ∨ n = nonce

theorem AsksAt.exists_decides (h : x.AsksAt config s now expires)
    (hverify : verify config s x.call = x.outcome) :
    ∃ nonce, x.Decides config s now expires nonce := by
  obtain ⟨rfl, ⟨nonce, hask⟩, hanswers⟩ := h
  obtain ⟨hresult, hentries⟩ := hask.verify_of_answers hanswers
  have hlive := hask.liveEntries_verify hanswers
  refine ⟨nonce, ?_⟩
  constructor
  · exact hask.nonceOf_eq
  all_goals rw [← hverify]
  · exact hresult
  · exact hlive.trans hentries
  · exact hlive.symm
  · exact (resembles_verify config s x.call).entryFor_eq
  · exact fun n => hask.holds_verify_iff hanswers

theorem Decides.uses_iff (h : x.Decides config s now expires nonce) :
    x.Uses config n ↔ n = nonce ∧ ¬s.Holds nonce now := by
  rw [Uses, h.result_eq, h.nonce_eq, Option.some.injEq, eq_comm (a := nonce), and_comm]
  refine and_congr_right fun _ => ?_
  split_ifs with hheld <;> simp [hheld]

end Settlement

namespace Traffic

/-- The first of several calls decides its nonce, and the others go on from the store it leaves. -/
theorem InOrder.cons_cases (h : InOrder config s (y :: l) s')
    (hl : ∀ x ∈ y :: l, x.AsksAt config s now expires) :
    (∃ nonce, y.Decides config s now expires nonce) ∧ InOrder config y.outcome.store l s' ∧
      ∀ x ∈ l, x.AsksAt config y.outcome.store now expires := by
  obtain ⟨hverify, hrest⟩ := inOrder_cons_iff.1 h
  refine ⟨(hl y List.mem_cons_self).exists_decides hverify, hrest, fun x hx => ?_⟩
  obtain ⟨hnow, hask, hanswers⟩ := hl x (List.mem_cons_of_mem _ hx)
  rw [← hverify]
  exact ⟨hnow, hask, answers_verify hanswers config y.call⟩

section InOrder

variable (h : InOrder config s l s') (hl : ∀ x ∈ l, x.AsksAt config s now expires)

include h hl

/-- A call is verified or a replay. -/
theorem result_of_inOrder (hx : x ∈ l) :
    x.outcome.result = .ok .verified ∨
      x.outcome.result = .ok (.rejected .replayDetected none) := by
  induction l generalizing s with
  | nil => cases hx
  | cons y l ih =>
    obtain ⟨⟨nonce, hdecides⟩, hrest, hlater⟩ := h.cons_cases hl
    rcases List.mem_cons.1 hx with rfl | hx
    · rw [hdecides.result_eq]
      split_ifs
      · exact .inr rfl
      · exact .inl rfl
    · exact ih hrest hlater hx

/-- A nonce that is held is not used again. -/
theorem not_uses_of_holds (hheld : s.Holds nonce now) (hx : x ∈ l) : ¬x.Uses config nonce := by
  induction l generalizing s with
  | nil => cases hx
  | cons y l ih =>
    obtain ⟨⟨nonce', hdecides⟩, hrest, hlater⟩ := h.cons_cases hl
    rcases List.mem_cons.1 hx with rfl | hx
    · rw [hdecides.uses_iff]
      rintro ⟨rfl, hfree⟩
      exact hfree hheld
    · exact ih hrest hlater ((hdecides.holds_iff nonce).2 (.inl hheld)) hx

/-- No two calls use one nonce. -/
theorem eq_of_uses (hx : x ∈ l) (hy : y ∈ l) (huses : x.Uses config nonce)
    (huses' : y.Uses config nonce) : x = y := by
  induction l generalizing s with
  | nil => cases hx
  | cons z l ih =>
    obtain ⟨⟨nonce', hdecides⟩, hrest, hlater⟩ := h.cons_cases hl
    -- once the first call has used the nonce it is held, and no later call uses it
    have hlast (w : Settlement) (hz : z.Uses config nonce) (hw : w ∈ l) :
        ¬w.Uses config nonce := by
      obtain ⟨rfl, -⟩ := hdecides.uses_iff.1 hz
      exact not_uses_of_holds hrest hlater ((hdecides.holds_iff nonce).2 (.inr rfl)) hw
    rw [List.mem_cons] at hx hy
    rcases hx with rfl | hx <;> rcases hy with rfl | hy
    · rfl
    · exact absurd huses' (hlast y huses hy)
    · exact absurd huses (hlast x huses' hx)
    · exact ih hrest hlater hx hy

/-- A nonce that is not held is used if a call carries it. -/
theorem exists_uses_of_not_holds (hfree : ¬s.Holds nonce now)
    (hx : ∃ x ∈ l, x.nonce? config = some nonce) : ∃ x ∈ l, x.Uses config nonce := by
  obtain ⟨x, hx, hnonce⟩ := hx
  induction l generalizing s with
  | nil => cases hx
  | cons y l ih =>
    obtain ⟨⟨nonce', hdecides⟩, hrest, hlater⟩ := h.cons_cases hl
    by_cases heq : nonce = nonce'
    · subst heq
      exact ⟨y, List.mem_cons_self, hdecides.uses_iff.2 ⟨rfl, hfree⟩⟩
    · rcases List.mem_cons.1 hx with rfl | hx
      · exact absurd (Option.some.inj (hnonce.symm.trans hdecides.nonce_eq)) heq
      · have hstill : ¬y.outcome.store.Holds nonce now := by
          rw [hdecides.holds_iff]
          exact not_or.2 ⟨hfree, heq⟩
        obtain ⟨z, hz, huses⟩ := ih hrest hlater hstill hx
        exact ⟨z, List.mem_cons_of_mem _ hz, huses⟩

/-- In the end there are the entries that were not over, and one for each nonce that was free. -/
theorem liveEntries_of_inOrder :
    (s'.liveEntries now).Perm
      (s.liveEntries now ++
        (s.free now (l.filterMap (·.nonce? config))).map (s.entryFor · expires now)) := by
  induction l generalizing s with
  | nil =>
    rw [inOrder_nil_iff.1 h]
    simp [NonceStore.free]
  | cons y l ih =>
    obtain ⟨⟨nonce, hdecides⟩, hrest, hlater⟩ := h.cons_cases hl
    have hfree := NonceStore.free_cons_perm hdecides.holds_iff (l.filterMap (·.nonce? config))
    have hperm := ih hrest hlater
    rw [hdecides.liveEntries_eq, hdecides.entryFor_eq, List.append_assoc] at hperm
    rw [List.filterMap_cons_some hdecides.nonce_eq]
    refine hperm.trans (List.Perm.append_left _ ?_)
    refine List.Perm.trans ?_ (hfree.map (s.entryFor · expires now)).symm
    rw [List.map_append, apply_ite (List.map _)]
    exact .refl _

/-- Entries that are over stay only if there was no call. -/
theorem entries_of_inOrder (hne : l ≠ []) : s'.entries = s'.liveEntries now := by
  induction l generalizing s with
  | nil => exact absurd rfl hne
  | cons y l ih =>
    obtain ⟨⟨nonce, hdecides⟩, hrest, hlater⟩ := h.cons_cases hl
    by_cases hempty : l = []
    · subst hempty
      rw [← inOrder_nil_iff.1 hrest]
      exact hdecides.entries_eq
    · exact ih hrest hlater hempty

end InOrder

/-! ### All interleavings -/

variable {batch : List Arrival} {store : NonceStore} {clock : DateTime} {moves : List Move}
  {final : Traffic} {i : ℕ}

/-- All calls have settled, at this reference time. -/
def SettledAt (now : DateTime) (final : Traffic) : Prop :=
  ∀ p ∈ final.calls, ∃ call outcome, p = .settled call outcome ∧ call.now = now

/-- The result of the call at an index once it has settled. -/
def result? (final : Traffic) (i : ℕ) : Option (Except Fault Verdict) :=
  match final.calls[i]? with
  | some (.settled _ outcome) => some outcome.result
  | _ => none

/-- The delivery at an index carries this nonce and is verified in the end. -/
def Accepts (config : Config) (batch : List Arrival) (final : Traffic) (i : ℕ) (nonce : String) :
    Prop :=
  (∃ a, batch[i]? = some a ∧ (a.delivery config).nonce = some nonce) ∧
    final.result? i = some (.ok .verified)

/-- Every delivery is verified or a replay. Of those with a nonce that was not held just one is
verified, and of those with a nonce that was held none. -/
structure Apportions (config : Config) (store : NonceStore) (batch : List Arrival) (now : DateTime)
    (final : Traffic) : Prop where
  verified_or_replay : ∀ i < batch.length, final.result? i = some (.ok .verified) ∨
    final.result? i = some (.ok (.rejected .replayDetected none))
  existsUnique : ∀ nonce, ¬store.Holds nonce now →
    (∃ a ∈ batch, (a.delivery config).nonce = some nonce) →
      ∃! i, final.Accepts config batch i nonce
  none_of_holds : ∀ nonce, store.Holds nonce now → ∀ i, ¬final.Accepts config batch i nonce

/-- The nonces that count for the deliveries. -/
def carried (config : Config) (batch : List Arrival) : List String :=
  batch.filterMap fun a => nonceOf config (a.delivery config)

theorem filterMap_range_length {α β : Type} (l : List α) (f : α → Option β) :
    ((List.range l.length).filterMap fun i => l[i]?.bind f) = l.filterMap f := by
  induction l with
  | nil => rfl
  | cons a l ih =>
    rw [List.length_cons, List.range_succ_eq_map, List.filterMap_cons, List.filterMap_map,
      List.filterMap_cons, ← ih]
    rfl

section Complete

variable (hrun : (start clock store batch).run config moves = final) (hall : final.SettledAt now)

include hrun hall

/-- The delivery at an index settles. -/
theorem exists_settlement (hi : i < batch.length) :
    ∃ x ∈ settlements config (start clock store batch) moves, x.index = i := by
  subst hrun
  have hlt : i < ((start clock store batch).run config moves).calls.length := by
    rwa [length_calls_run, length_calls_start]
  obtain ⟨call, outcome, hp, -⟩ := hall _ (List.getElem_mem hlt)
  exact ⟨⟨i, call, outcome⟩, mem_settlements_iff.2 (List.getElem?_eq_some_iff.2 ⟨hlt, hp⟩), rfl⟩

/-- A call that settles is that of its delivery, at the reference time. -/
theorem exists_arrival_of_mem (hx : x ∈ settlements config (start clock store batch) moves) :
    ∃ a, batch[x.index]? = some a ∧ x.call = a.callAt now ∧
      x.nonce? config = nonceOf config (a.delivery config) ∧
      final.result? x.index = some x.outcome.result := by
  subst hrun
  have hsettled := mem_settlements_iff.1 hx
  obtain ⟨a, ha, hcall⟩ := serves_run config clock store batch moves _ _ hsettled
  obtain ⟨call, outcome, hp, hnow⟩ := hall _ (List.mem_of_getElem? hsettled)
  cases hp
  have hcall : x.call = a.callAt now := hnow ▸ hcall
  refine ⟨a, ha, hcall, ?_, ?_⟩
  · rw [Settlement.nonce?, hcall]
    rfl
  · unfold result?
    rw [hsettled]

/-- Each delivery settles once. -/
theorem map_index_settlements_perm :
    ((settlements config (start clock store batch) moves).map (·.index)).Perm
      (List.range batch.length) := by
  refine (List.perm_ext_iff_of_nodup (nodup_settlements _ _ _) List.nodup_range).2 fun i => ?_
  rw [List.mem_range, List.mem_map]
  constructor
  · rintro ⟨x, hx, rfl⟩
    obtain ⟨a, ha, -⟩ := exists_arrival_of_mem hrun hall hx
    exact (List.getElem?_eq_some_iff.1 ha).1
  · exact fun hi => exists_settlement hrun hall hi

/-- The nonces of the calls that settle are those of the deliveries. -/
theorem nonces_settlements_perm :
    ((settlements config (start clock store batch) moves).filterMap (·.nonce? config)).Perm
      (carried config batch) := by
  have hindex := (map_index_settlements_perm hrun hall).filterMap fun i =>
    batch[i]?.bind fun a => nonceOf config (a.delivery config)
  rw [List.filterMap_map, filterMap_range_length] at hindex
  refine List.Perm.trans (.of_eq (List.filterMap_congr fun x hx => ?_)) hindex
  obtain ⟨a, ha, -, hnonce, -⟩ := exists_arrival_of_mem hrun hall hx
  rw [Function.comp_apply, ha, hnonce]
  rfl

theorem accepts_iff (hpolicy : config.policy ≠ .disabled) :
    final.Accepts config batch i nonce ↔
      ∃ x ∈ settlements config (start clock store batch) moves,
        x.index = i ∧ x.Uses config nonce := by
  constructor
  · rintro ⟨⟨a, ha, hnonce⟩, hresult⟩
    obtain ⟨x, hx, rfl⟩ := exists_settlement hrun hall (List.getElem?_eq_some_iff.1 ha).1
    obtain ⟨b, hb, -, hx', hresult'⟩ := exists_arrival_of_mem hrun hall hx
    cases ha.symm.trans hb
    rw [hresult', Option.some.injEq] at hresult
    exact ⟨x, hx, rfl, hresult, hx'.trans (nonceOf_eq_some_iff.2 ⟨hpolicy, hnonce⟩)⟩
  · rintro ⟨x, hx, rfl, hresult, hnonce⟩
    obtain ⟨a, ha, -, hx', hresult'⟩ := exists_arrival_of_mem hrun hall hx
    exact ⟨⟨a, ha, (nonceOf_eq_some_iff.1 (hx'.symm.trans hnonce)).2⟩, hresult ▸ hresult'⟩

section Batch

variable (hpolicy : config.policy ≠ .disabled)
  (hauth : ∀ a ∈ batch, (a.callAt now).IsAuthentic config)
  (hnonce : ∀ a ∈ batch, (a.delivery config).nonce.isSome)
  (hanswers : ∀ a ∈ batch, store.Answers a.caller)
  (hexpiry : expiry config now = .ok expires)

include hpolicy hauth hnonce hanswers hexpiry

theorem asksAt_of_mem (hx : x ∈ settlements config (start clock store batch) moves) :
    x.AsksAt config store now expires := by
  obtain ⟨a, ha, hcall, -⟩ := exists_arrival_of_mem hrun hall hx
  have hmem := List.mem_of_getElem? ha
  obtain ⟨nonce, hsome⟩ := Option.isSome_iff_exists.1 (hnonce a hmem)
  have hask := (hauth a hmem).asks hpolicy hsome hexpiry
  rw [← hcall] at hask
  exact ⟨congrArg Call.now hcall, ⟨nonce, hask⟩, hcall ▸ hanswers a hmem⟩

theorem apportions_of_settledAt : final.Apportions config store batch now := by
  have hin := hrun ▸ inOrder_settlements config clock store batch moves
  have hasks : ∀ x ∈ settlements config (start clock store batch) moves,
      x.AsksAt config store now expires := fun x hx =>
    asksAt_of_mem hrun hall hpolicy hauth hnonce hanswers hexpiry hx
  refine ⟨fun i hi => ?_, fun nonce hfree ⟨a, ha, hcarried⟩ => ?_, fun nonce hheld i => ?_⟩
  · obtain ⟨x, hx, rfl⟩ := exists_settlement hrun hall hi
    obtain ⟨-, -, -, -, hresult⟩ := exists_arrival_of_mem hrun hall hx
    rw [hresult, Option.some.injEq, Option.some.injEq]
    exact result_of_inOrder hin hasks hx
  · obtain ⟨i, hi⟩ := List.mem_iff_getElem?.1 ha
    obtain ⟨x, hx, rfl⟩ := exists_settlement hrun hall (List.getElem?_eq_some_iff.1 hi).1
    obtain ⟨b, hb, -, hx', -⟩ := exists_arrival_of_mem hrun hall hx
    cases hi.symm.trans hb
    have hcarries := hx'.trans (nonceOf_eq_some_iff.2 ⟨hpolicy, hcarried⟩)
    obtain ⟨y, hy, huses⟩ := exists_uses_of_not_holds hin hasks hfree ⟨x, hx, hcarries⟩
    refine ⟨y.index, (accepts_iff hrun hall hpolicy).2 ⟨y, hy, rfl, huses⟩, fun j hj => ?_⟩
    obtain ⟨z, hz, rfl, huses'⟩ := (accepts_iff hrun hall hpolicy).1 hj
    rw [eq_of_uses hin hasks hz hy huses' huses]
  · rw [accepts_iff hrun hall hpolicy]
    rintro ⟨x, hx, -, huses⟩
    exact not_uses_of_holds hin hasks hheld hx huses

/-- What the store keeps in the end does not depend on the order of the settlements. -/
theorem entries_of_settledAt :
    final.store.entries.Perm
      (if batch = [] then store.entries
        else store.liveEntries now ++
          (store.free now (carried config batch)).map (store.entryFor · expires now)) := by
  have hin := hrun ▸ inOrder_settlements config clock store batch moves
  have hasks : ∀ x ∈ settlements config (start clock store batch) moves,
      x.AsksAt config store now expires := fun x hx =>
    asksAt_of_mem hrun hall hpolicy hauth hnonce hanswers hexpiry hx
  have hlength := (map_index_settlements_perm hrun hall).length_eq
  rw [List.length_map, List.length_range] at hlength
  split_ifs with hempty
  · rw [hempty, List.length_nil, List.length_eq_zero_iff] at hlength
    rw [hempty, hlength] at hin
    rw [inOrder_nil_iff.1 hin]
  · have hne : settlements config (start clock store batch) moves ≠ [] := by
      rw [← List.length_pos_iff, hlength, List.length_pos_iff]
      exact hempty
    rw [entries_of_inOrder hin hasks hne]
    refine (liveEntries_of_inOrder hin hasks).trans (List.Perm.append_left _ (List.Perm.map _ ?_))
    exact NonceStore.free_perm (nonces_settlements_perm hrun hall)

end Batch

end Complete

end Traffic

/-- Authentic deliveries that carry nonces, over a store that answers their callers, are verified
concurrently at one reference time with an expiry. In every interleaving each is verified or a
replay, and of those with one nonce just one is verified if the nonce was not held, and none if it
was; what the store keeps in the end is the same in all of them. -/
theorem batch_settled {config : Config} {store : NonceStore} {batch : List Arrival}
    {clock now expires : DateTime} (hpolicy : config.policy ≠ .disabled)
    (hauth : ∀ a ∈ batch, (a.callAt now).IsAuthentic config)
    (hnonce : ∀ a ∈ batch, (a.delivery config).nonce.isSome)
    (hanswers : ∀ a ∈ batch, store.Answers a.caller)
    (hexpiry : expiry config now = .ok expires) :
    ∃ contents : List StoreEntry, ∀ moves final,
      (Traffic.start clock store batch).run config moves = final → final.SettledAt now →
        final.Apportions config store batch now ∧ final.store.entries.Perm contents := by
  refine ⟨if batch = [] then store.entries else store.liveEntries now ++
    (store.free now (Traffic.carried config batch)).map (store.entryFor · expires now), ?_⟩
  intro moves final hrun hall
  constructor
  · exact Traffic.apportions_of_settledAt hrun hall hpolicy hauth hnonce hanswers hexpiry
  · exact Traffic.entries_of_settledAt hrun hall hpolicy hauth hnonce hanswers hexpiry

/-! ### A sample -/

/-- The sample delivery, to be verified in the fifth minute. -/
def sampleArrival (caller : Caller) : Arrival where
  caller
  body := [120, 10, 121]
  fields := (sampleCall "n" [120, 10, 121] 5).fields
  given := some (sampleMinute 5)

theorem sampleArrival_asks (caller : Caller) :
    ((sampleArrival caller).callAt (sampleMinute 5)).Asks sampleConfig "n" (sampleMinute 15) := by
  have hask : (sampleCall "n" [120, 10, 121] 5).Asks sampleConfig "n" (sampleMinute 15) :=
    sampleCall_asks (by decide) (by decide +kernel) (by decide +kernel)
  exact hask

theorem sampleArrival_isAuthentic (caller : Caller) :
    ((sampleArrival caller).callAt (sampleMinute 5)).IsAuthentic sampleConfig :=
  (of_plan_eq_reserve (sampleArrival_asks caller)).1

theorem nonce_sampleArrival (caller : Caller) :
    ((sampleArrival caller).delivery sampleConfig).nonce = some "n" :=
  (nonceOf_eq_some_iff.1 (sampleArrival_asks caller).nonceOf_eq).2

/-- The sample delivery twice, once through each kind of client. -/
def sampleBatch : List Arrival := [sampleArrival .blocking, sampleArrival .awaiting]

/-- The second call is the first to be checked, and the first call the first to settle. -/
def sampleMoves : List Move :=
  [.advance 1, .advance 1, .advance 0, .advance 0, .advance 0, .advance 1]

/-- One of the two is verified. -/
theorem sampleBatch_settled :
    ((Traffic.start (sampleMinute 5) (.memory .empty) sampleBatch).run sampleConfig
        sampleMoves).SettledAt (sampleMinute 5) ∧
      ∃! i, ((Traffic.start (sampleMinute 5) (.memory .empty) sampleBatch).run sampleConfig
        sampleMoves).Accepts sampleConfig sampleBatch i "n" := by
  have hall : ((Traffic.start (sampleMinute 5) (.memory .empty) sampleBatch).run sampleConfig
      sampleMoves).SettledAt (sampleMinute 5) := by
    intro p hp
    rcases List.mem_pair.1 hp with rfl | rfl
    · exact ⟨_, _, rfl, rfl⟩
    · exact ⟨_, _, rfl, rfl⟩
  have hmem : ∀ a ∈ sampleBatch, ∃ caller, a = sampleArrival caller := by
    intro a ha
    rcases List.mem_pair.1 ha with rfl | rfl
    · exact ⟨_, rfl⟩
    · exact ⟨_, rfl⟩
  obtain ⟨contents, hbatch⟩ :=
    @batch_settled sampleConfig (.memory .empty) sampleBatch (sampleMinute 5) (sampleMinute 5)
      (sampleMinute 15) (by decide)
      (fun a ha => by obtain ⟨caller, rfl⟩ := hmem a ha; exact sampleArrival_isAuthentic caller)
      (fun a ha => by obtain ⟨caller, rfl⟩ := hmem a ha; rw [nonce_sampleArrival]; rfl)
      (fun _ _ => MemoryStore.allAware_empty) (expiry_sampleMinute 5 (by decide))
  refine ⟨hall, (hbatch _ _ rfl hall).1.existsUnique "n" ?_ ?_⟩
  · rw [NonceStore.holds_memory]
    exact MemoryStore.not_holds_empty
  · exact ⟨_, List.mem_cons_self, nonce_sampleArrival .blocking⟩

/-- The sample delivery by itself, after its three steps. -/
def sampleAlone (config : Config) (store : NonceStore) (caller : Caller) : Traffic :=
  (Traffic.start (sampleMinute 5) store [sampleArrival caller]).run config
    [.advance 0, .advance 0, .advance 0]

/-- The sample delivery by itself is authentic, carries a nonce that is not held, and settles, but
it is not verified. -/
structure FailsAlone (config : Config) (store : NonceStore) (caller : Caller) : Prop where
  policy_eq : config.policy = .required
  authentic : ((sampleArrival caller).callAt (sampleMinute 5)).IsAuthentic config
  nonce_eq : ((sampleArrival caller).delivery config).nonce = some "n"
  not_holds : ¬store.Holds "n" (sampleMinute 5)
  settled : (sampleAlone config store caller).SettledAt (sampleMinute 5)
  not_apportions : ¬(sampleAlone config store caller).Apportions config store
    [sampleArrival caller] (sampleMinute 5)

theorem failsAlone_of_result {config : Config} {store : NonceStore} {caller : Caller}
    {result : Except Fault Verdict} (hpolicy : config.policy = .required)
    (hauth : ((sampleArrival caller).callAt (sampleMinute 5)).IsAuthentic config)
    (hnonce : ((sampleArrival caller).delivery config).nonce = some "n")
    (hfree : ¬store.Holds "n" (sampleMinute 5))
    (hresult : (verify config store ((sampleArrival caller).callAt (sampleMinute 5))).result =
      result)
    (hverified : result ≠ .ok .verified)
    (hreplay : result ≠ .ok (.rejected .replayDetected none)) :
    FailsAlone config store caller := by
  refine ⟨hpolicy, hauth, hnonce, hfree, fun p hp => ?_, fun h => ?_⟩
  · rw [List.mem_singleton.1 hp]
    exact ⟨_, _, rfl, rfl⟩
  · have hzero : (sampleAlone config store caller).result? 0 = some result := hresult ▸ rfl
    rcases h.verified_or_replay 0 Nat.zero_lt_one with hr | hr
    · exact hverified (Option.some.inj (hzero.symm.trans hr))
    · exact hreplay (Option.some.inj (hzero.symm.trans hr))

/-- The sample configuration with nonces that would be held beyond the end of the calendar. -/
def sampleEndless : Config where
  secret := sampleConfig.secret
  skew := sampleConfig.skew
  maxAge := sampleConfig.maxAge
  policy := sampleConfig.policy
  nonceTtl := some ⟨86399999999999000000, by decide, by decide⟩
  names := sampleConfig.names
  secret_ne_nil := sampleConfig.secret_ne_nil
  skew_nonneg := sampleConfig.skew_nonneg
  maxAge_nonneg := sampleConfig.maxAge_nonneg
  nonceTtl_pos := by
    intro ttl h
    cases h
    decide

/-- A local store with an expiry that does not state its offset, for another nonce. -/
def sampleStray : MemoryStore :=
  ⟨[⟨"m", ⟨epochWall, none, by unfold epochWall wallLimit; omega⟩⟩], List.nodup_singleton _⟩

/-- A remote store that gives awaited reservations no time. -/
def sampleHasty : RemoteStore :=
  { sampleRemote with awaitingClient := some {}, timeout := some .zero }

theorem sampleEndless_isAuthentic :
    ((sampleArrival .blocking).callAt (sampleMinute 5)).IsAuthentic sampleEndless := by
  obtain ⟨timestamp, signature, declared, hauth⟩ := sampleArrival_isAuthentic .blocking
  exact ⟨timestamp, signature, declared, hauth.timestamp_eq, hauth.signature_eq,
    hauth.nonce_isSome, hauth.read_eq, hauth.window_eq, hauth.valid⟩

/-- A new nonce is of no use without an expiry, among expiries that cannot be compared, or without
time to wait for the answer. -/
theorem sampleAlone_fails :
    FailsAlone sampleEndless (.memory .empty) .blocking ∧
      FailsAlone sampleConfig (.memory sampleStray) .blocking ∧
      FailsAlone sampleConfig (.remote sampleHasty) .awaiting := by
  have hasks := sampleArrival_asks
  refine ⟨?_, ?_, ?_⟩
  · have hexpiry : expiry sampleEndless (sampleMinute 5) = .error .dateOutOfRange := by
      decide +kernel
    have hresult := sampleEndless_isAuthentic.result_of_expiry_error (by decide)
      (nonce_sampleArrival .blocking) hexpiry (.memory .empty)
    exact failsAlone_of_result rfl sampleEndless_isAuthentic (nonce_sampleArrival _)
      (by decide) hresult (by decide) (by decide)
  · have hresult : (verify sampleConfig (.memory sampleStray)
        ((sampleArrival .blocking).callAt (sampleMinute 5))).result =
          .error (.store (.time .mixedComparison)) := by
      rw [(hasks .blocking).verify_eq]
      rfl
    exact failsAlone_of_result rfl (sampleArrival_isAuthentic _) (nonce_sampleArrival _)
      (by decide) hresult (by decide) (by decide)
  · have hresult : (verify sampleConfig (.remote sampleHasty)
        ((sampleArrival .awaiting).callAt (sampleMinute 5))).result =
          .ok (.rejected .storeUnavailable none) := by
      rw [(hasks .awaiting).verify_eq]
      rfl
    exact failsAlone_of_result rfl (sampleArrival_isAuthentic _) (nonce_sampleArrival _)
      (by decide) hresult (by decide) (by decide)

end Verifier

end WebhookAuth
