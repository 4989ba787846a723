import WebhookAuth.Proofs.Interleaving
import WebhookAuth.Proofs.IsoRoundTrip

/-!
# Reference times in other words

One instant is told by a time with any offset, or by one without, which is read as UTC. Nothing that
a verifier does with its reference time tells these apart: the window is measured between instants
(`Timestamp.isWithinWindow_congr`), the expiry of a nonce moves with the reference time
(`Verifier.expiry_alike`), and the local store compares instants (`MemoryStore.reserve_alike`). So
calls with the same reference instants have the same results and leave the same lines in the log,
and stores that hold the same nonces until the same instants (`Verifier.run_restated`).
-/

namespace WebhookAuth

/-! ### One instant -/

/-- The times name the same instant, and both state an offset or neither does. -/
structure DateTime.Alike (t t' : DateTime) : Prop where
  instant_eq : t'.instant = t.instant
  isAware_eq : t'.isAware = t.isAware

namespace DateTime

variable {t t' u u' : DateTime} {d : Duration}

theorem Alike.refl (t : DateTime) : t.Alike t := ⟨rfl, rfl⟩

theorem alike_assumeUtc (h : t'.instant = t.instant) : t.assumeUtc.Alike t'.assumeUtc where
  instant_eq := by rw [instant_assumeUtc, instant_assumeUtc, h]
  isAware_eq := by rw [isAware_assumeUtc, isAware_assumeUtc]

theorem Alike.microsSince (h : t.Alike t') (earlier : DateTime) :
    t'.microsSince earlier = t.microsSince earlier := by
  unfold DateTime.microsSince
  rw [h.isAware_eq, h.instant_eq]

theorem Alike.notAfter (h : t.Alike t') (hu : u.Alike u') : t'.notAfter u' = t.notAfter u := by
  unfold DateTime.notAfter
  rw [h.isAware_eq, h.instant_eq, hu.isAware_eq, hu.instant_eq]

theorem add_eq_error (h : ¬t.CanAdd d) : t.add d = .error .dateOutOfRange := by
  cases hadd : t.add d with
  | ok u => exact absurd ⟨u, hadd⟩ h
  | error e =>
    unfold add ofWall at hadd
    split at hadd
    · cases hadd
    · exact hadd.symm

theorem canAdd_assumeUtc : t.assumeUtc.CanAdd d ↔ t.CanAdd d := by
  have hwall : t.assumeUtc.wall = t.wall := by
    unfold assumeUtc
    split <;> rfl
  rw [canAdd_iff, canAdd_iff, hwall]

end DateTime

theorem Timestamp.isWithinWindow_congr {now now' : DateTime} (h : now.Alike now')
    (declared : DateTime) (skew : Duration) (maxAge : Option Duration) :
    isWithinWindow declared now' skew maxAge = isWithinWindow declared now skew maxAge := by
  unfold isWithinWindow
  rw [h.microsSince]

/-! ### The local store -/

/-- The records are for one nonce, until one instant. -/
structure NonceRecord.Alike (r r' : NonceRecord) : Prop where
  nonce_eq : r'.nonce = r.nonce
  expires : r.expires.Alike r'.expires

/-- The stores hold the same nonces until the same instants, in the same order. -/
def MemoryStore.Alike (s s' : MemoryStore) : Prop :=
  List.Forall₂ NonceRecord.Alike s.records s'.records

namespace MemoryStore

variable {s s' : MemoryStore} {nonce : String} {expires expires' now now' : DateTime}

theorem Alike.refl (s : MemoryStore) : s.Alike s :=
  List.forall₂_same.2 fun r _ => ⟨rfl, .refl r.expires⟩

theorem Alike.nonces_eq (h : s.Alike s') :
    s'.records.map (·.nonce) = s.records.map (·.nonce) := by
  unfold Alike at h
  generalize s.records = records, s'.records = records' at h
  induction h with
  | nil => rfl
  | cons hr _ ih => rw [List.map_cons, List.map_cons, ih, hr.nonce_eq]

theorem Alike.all_isAware (h : s.Alike s') (hnow : now.Alike now') :
    (s'.records.all fun r => r.expires.isAware == now'.isAware) =
      s.records.all fun r => r.expires.isAware == now.isAware := by
  unfold Alike at h
  generalize s.records = records, s'.records = records' at h
  induction h with
  | nil => rfl
  | cons hr _ ih => rw [List.all_cons, List.all_cons, ih, hr.expires.isAware_eq, hnow.isAware_eq]

theorem Alike.live (h : s.Alike s') (hnow : now.Alike now') :
    (s.filter fun r => now.instant < r.expires.instant).Alike
      (s'.filter fun r => now'.instant < r.expires.instant) := by
  have hlive {r r' : NonceRecord} (hr : r.Alike r') :
      decide (now.instant < r.expires.instant) = true ↔
        decide (now'.instant < r'.expires.instant) = true := by
    rw [hnow.instant_eq, hr.expires.instant_eq]
  unfold Alike
  rw [records_filter, records_filter]
  exact List.rel_filter (fun _ _ hr => hlive hr) h

/-- Stores that are alike are swept alike. -/
theorem Alike.sweep_cases (h : s.Alike s') (hnow : now.Alike now') :
    (∃ e, s.sweep now = .error e ∧ s'.sweep now' = .error e) ∨
      ∃ live live', s.sweep now = .ok live ∧ s'.sweep now' = .ok live' ∧ live.Alike live' := by
  unfold sweep
  rw [h.all_isAware hnow]
  split_ifs with hall
  · exact .inr ⟨_, _, rfl, rfl, h.live hnow⟩
  · exact .inl ⟨_, rfl, rfl⟩

theorem Alike.insert (h : s.Alike s') (hexpires : expires.Alike expires')
    (hfree : nonce ∉ s.records.map (·.nonce)) (hfree' : nonce ∉ s'.records.map (·.nonce)) :
    (s.insert ⟨nonce, expires⟩ hfree).Alike (s'.insert ⟨nonce, expires'⟩ hfree') := by
  unfold Alike
  rw [records_insert, records_insert]
  exact List.rel_append h (.cons ⟨rfl, hexpires⟩ .nil)

/-- A reservation is answered alike, and leaves stores that are alike. -/
theorem Alike.reserve (h : s.Alike s') (hexpires : expires.Alike expires')
    (hnow : now.Alike now') (nonce : String) :
    (s'.reserve nonce expires' now').1 = (s.reserve nonce expires now).1 ∧
      (s.reserve nonce expires now).2.Alike (s'.reserve nonce expires' now').2 := by
  unfold MemoryStore.reserve
  rcases h.sweep_cases hnow with ⟨e, hsweep, hsweep'⟩ | ⟨live, live', hsweep, hsweep', hlive⟩
  · rw [hsweep, hsweep']
    exact ⟨rfl, h⟩
  rw [hsweep, hsweep']
  dsimp only
  rw [hexpires.notAfter hnow]
  cases hpast : expires.notAfter now with
  | error e => exact ⟨rfl, hlive⟩
  | ok past =>
    cases past with
    | true => exact ⟨rfl, hlive⟩
    | false =>
      dsimp only
      have hnonces := hlive.nonces_eq
      by_cases hheld : nonce ∈ live.records.map (·.nonce)
      · have hheld' : nonce ∈ live'.records.map (·.nonce) := by rwa [hnonces]
        rw [dif_pos hheld, dif_pos hheld']
        exact ⟨rfl, hlive⟩
      · have hheld' : nonce ∉ live'.records.map (·.nonce) := by rwa [hnonces]
        rw [dif_neg hheld, dif_neg hheld']
        exact ⟨rfl, hlive.insert hexpires hheld hheld'⟩

end MemoryStore

namespace Verifier

variable {config : Config} {d : Delivery} {now now' : DateTime}

/-! ### One call -/

/-- The lifetime of a nonce can be added to both times or to neither. -/
def FitAlike (config : Config) (t t' : DateTime) : Prop :=
  ∀ lifetime, config.nonceLifetime = .ok lifetime → (t.CanAdd lifetime ↔ t'.CanAdd lifetime)

theorem expiry_alike (h : now.Alike now') (hfit : FitAlike config now now') :
    (∃ e, expiry config now = .error e ∧ expiry config now' = .error e) ∨
      ∃ expires expires', expiry config now = .ok expires ∧ expiry config now' = .ok expires' ∧
        expires.Alike expires' := by
  unfold expiry
  cases hlifetime : config.nonceLifetime with
  | error e => exact .inl ⟨e, rfl, rfl⟩
  | ok lifetime =>
    by_cases hadd : now.CanAdd lifetime
    · obtain ⟨expires', hexpires'⟩ := (hfit lifetime hlifetime).1 hadd
      obtain ⟨expires, hexpires⟩ := hadd
      refine .inr ⟨expires, expires', hexpires, hexpires', ?_, ?_⟩
      · rw [DateTime.instant_of_add hexpires, DateTime.instant_of_add hexpires', h.instant_eq]
      · rw [DateTime.isAware_of_add hexpires, DateTime.isAware_of_add hexpires', h.isAware_eq]
    · have hadd' := mt (hfit lifetime hlifetime).2 hadd
      exact .inl ⟨_, DateTime.add_eq_error hadd, DateTime.add_eq_error hadd'⟩

/-- The plans are the same but for the words in which an expiry is told. -/
inductive PlanAlike : Except Fault Plan → Except Fault Plan → Prop where
  | same (p : Except Fault Plan) : PlanAlike p p
  | reserve (nonce : String) {expires expires' : DateTime} (h : expires.Alike expires') :
      PlanAlike (.ok (.reserve nonce expires)) (.ok (.reserve nonce expires'))

theorem planReservation_alike (h : now.Alike now') (hfit : FitAlike config now now') :
    PlanAlike (planReservation config d now) (planReservation config d now') := by
  unfold planReservation
  cases nonceOf config d with
  | none => exact .same _
  | some nonce =>
    dsimp only
    rcases expiry_alike h hfit with ⟨e, he, he'⟩ | ⟨expires, expires', he, he', halike⟩
    · rw [he, he']
      exact .same _
    · rw [he, he']
      exact .reserve nonce halike

theorem planDated_alike (h : now.Alike now') (hfit : FitAlike config now now')
    (timestamp signature : String) :
    PlanAlike (planDated config d timestamp signature now)
      (planDated config d timestamp signature now') := by
  have hwindow (next : Except Fault Plan) :
      planWindow config now' (Timestamp.read timestamp) next =
        planWindow config now (Timestamp.read timestamp) next := by
    unfold planWindow
    simp only [Timestamp.isWithinWindow_congr h]
  rw [planDated, planDated, hwindow]
  rcases planWindow_cases config now (Timestamp.read timestamp) with
    ⟨declared, -, -, hnext⟩ | ⟨reason, -, hreject⟩ | ⟨fault, hfault, -⟩
  · rw [hnext, hnext]
    unfold planSigned
    rcases Signature.isValid config.secret (signedMessage config timestamp d) signature with
      e | _ | _
    · exact .same _
    · exact .same _
    · exact planReservation_alike h hfit
  · rw [hreject, hreject]
    exact .same _
  · rw [hfault, hfault]
    exact .same _

/-- The checks that need no store decide alike. -/
theorem plan_alike (h : now.Alike now') (hfit : FitAlike config now now') (d : Delivery) :
    PlanAlike (plan config d now) (plan config d now') := by
  rcases exists_hasHeaders_or_missing config d with ⟨timestamp, signature, hheaders⟩ |
    ⟨name, hmissing⟩
  · rw [hheaders.plan_eq, hheaders.plan_eq]
    exact planDated_alike h hfit timestamp signature
  · rw [plan, plan, hmissing, hmissing]
    exact .same _

/-- The outcomes have the same result and the same log, and local stores that are alike. -/
structure OutcomeAlike (o o' : Outcome) : Prop where
  result_eq : o'.result = o.result
  log_eq : o'.log = o.log
  stores : ∃ s s', o.store = .memory s ∧ o'.store = .memory s' ∧ s.Alike s'

/-- What came of a reservation, told by its answer. -/
theorem ofReservation_alike {nonce : String} {answer : Except TimeError Bool} {s s' : MemoryStore}
    (h : s.Alike s') :
    OutcomeAlike (ofReservation nonce ⟨answer.mapError .time, .memory s, [], []⟩)
      (ofReservation nonce ⟨answer.mapError .time, .memory s', [], []⟩) := by
  rcases answer with e | _ | _
  · exact ⟨rfl, rfl, s, s', rfl, rfl, h⟩
  · exact ⟨rfl, rfl, s, s', rfl, rfl, h⟩
  · exact ⟨rfl, rfl, s, s', rfl, rfl, h⟩

theorem carryOut_alike {p p' : Except Fault Plan} {s s' : MemoryStore} (hp : PlanAlike p p')
    (hs : s.Alike s') (hnow : now.Alike now') (caller : Caller) (nonce : Option String) :
    OutcomeAlike (carryOut NonceStore.reserve (.memory s) caller nonce now p)
      (carryOut NonceStore.reserve (.memory s') caller nonce now' p') := by
  have hreserve {nonce : String} {expires expires' : DateTime} (h : expires.Alike expires') :
      OutcomeAlike (ofReservation nonce (NonceStore.reserve (.memory s) caller nonce expires now))
        (ofReservation nonce (NonceStore.reserve (.memory s') caller nonce expires' now')) := by
    obtain ⟨hanswer, hleft⟩ := hs.reserve h hnow nonce
    unfold NonceStore.reserve
    dsimp only
    rw [hanswer]
    exact ofReservation_alike hleft
  -- only a plan to reserve reaches the store and looks at the reference time again
  cases hp with
  | reserve nonce h => exact hreserve h
  | same p =>
    rcases p with e | ⟨reason, detail⟩ | _ | ⟨nonce, expires⟩
    · exact ⟨rfl, rfl, s, s', rfl, rfl, hs⟩
    · exact ⟨rfl, rfl, s, s', rfl, rfl, hs⟩
    · exact ⟨rfl, rfl, s, s', rfl, rfl, hs⟩
    · exact hreserve (.refl expires)

/-! ### A run -/

/-- An arrival with what the clock shows then. -/
structure Request extends Arrival where
  clock : DateTime

/-- The call that is made. -/
def Request.call (r : Request) : Call := r.callAt (referenceTime r.clock r.given)

/-- The times name the same instant, both with a lifetime of a nonce to come or neither. -/
structure SameInstant (config : Config) (t t' : DateTime) : Prop where
  instant_eq : t'.instant = t.instant
  fit : FitAlike config t t'

/-- Times to which the lifetime can be added both. -/
theorem sameInstant_of_canAdd {t t' : DateTime} {lifetime : Duration}
    (hlifetime : config.nonceLifetime = .ok lifetime) (hinstant : t'.instant = t.instant)
    (hadd : t.CanAdd lifetime) (hadd' : t'.CanAdd lifetime) : SameInstant config t t' := by
  refine ⟨hinstant, fun other hother => ?_⟩
  cases hlifetime.symm.trans hother
  exact iff_of_true hadd hadd'

/-- The requests differ in the words of their reference time only, if one is given. -/
structure Request.Restates (config : Config) (r r' : Request) : Prop where
  caller_eq : r'.caller = r.caller
  body_eq : r'.body = r.body
  fields_eq : r'.fields = r.fields
  clock_eq : r'.clock = r.clock
  given : Option.Rel (SameInstant config) r.given r'.given

theorem Request.Restates.now_alike {r r' : Request} (h : r.Restates config r') :
    r.call.now.Alike r'.call.now ∧ FitAlike config r.call.now r'.call.now := by
  have hgiven := h.given
  unfold call Arrival.callAt referenceTime
  dsimp only
  rw [h.clock_eq]
  generalize r.given = given, r'.given = given' at hgiven
  cases hgiven with
  | none => exact ⟨.refl _, fun _ _ => Iff.rfl⟩
  | some hsame =>
    refine ⟨DateTime.alike_assumeUtc hsame.instant_eq, fun lifetime hlifetime => ?_⟩
    dsimp only [Option.elim]
    rw [DateTime.canAdd_assumeUtc, DateTime.canAdd_assumeUtc]
    exact hsame.fit lifetime hlifetime

/-- One call in other words. -/
theorem verify_alike {r r' : Request} {s s' : MemoryStore} (h : r.Restates config r')
    (hs : s.Alike s') :
    OutcomeAlike (verify config (.memory s) r.call) (verify config (.memory s') r'.call) := by
  obtain ⟨hnow, hfit⟩ := h.now_alike
  have hcaller : r'.call.caller = r.call.caller := h.caller_eq
  have hdelivery : r'.call.delivery config = r.call.delivery config := by
    show Delivery.ofFields config.names r'.body r'.fields =
      Delivery.ofFields config.names r.body r.fields
    rw [h.body_eq, h.fields_eq]
  unfold verify verifyOver
  dsimp only
  rw [hcaller, hdelivery]
  exact carryOut_alike (plan_alike hnow hfit _) hs hnow _ _

theorem run_alike {requests requests' : List Request} {s s' : MemoryStore}
    (h : List.Forall₂ (Request.Restates config) requests requests') (hs : s.Alike s') :
    List.Forall₂ OutcomeAlike (run config (.memory s) (requests.map Request.call)).1
        (run config (.memory s') (requests'.map Request.call)).1 ∧
      ∃ final final', (run config (.memory s) (requests.map Request.call)).2 = .memory final ∧
        (run config (.memory s') (requests'.map Request.call)).2 = .memory final' ∧
        final.Alike final' := by
  -- the rest of the calls goes on from stores that are alike but need not be the same
  induction h generalizing s s' with
  | nil => exact ⟨.nil, s, s', rfl, rfl, hs⟩
  | cons hfirst _ ih =>
    have houtcome := verify_alike hfirst hs
    obtain ⟨later, later', hstore, hstore', hlater⟩ := houtcome.stores
    rw [List.map_cons, List.map_cons, run_cons, run_cons, hstore, hstore']
    obtain ⟨houtcomes, hfinal⟩ := ih hlater
    exact ⟨.cons houtcome houtcomes, hfinal⟩

theorem resultAt_of_alike {calls calls' : List Call}
    (h : List.Forall₂ OutcomeAlike (run config (.memory .empty) calls).1
      (run config (.memory .empty) calls').1) (i : ℕ) :
    resultAt config calls' i = resultAt config calls i := by
  unfold resultAt
  rw [← List.getElem?_map, ← List.getElem?_map]
  congr 1
  generalize (run config (.memory .empty) calls).1 = outcomes at h ⊢
  generalize (run config (.memory .empty) calls').1 = outcomes' at h ⊢
  induction h with
  | nil => rfl
  | cons h _ ih => rw [List.map_cons, List.map_cons, ih, h.result_eq]

/-- Only the instant of a reference time matters. If each time that is given for the calls of one
run and the time that is given for the same call of another name the same instant, with whatever
offsets or none, and the lifetime of a nonce leads out of the calendar from both or from neither,
then from the same local store every call has the same result and leaves the same lines in the log,
and after every call the two stores hold the same nonces until the same instants. -/
theorem run_restated (s : MemoryStore) {requests requests' : List Request}
    (h : List.Forall₂ (Request.Restates config) requests requests') :
    List.Forall₂ OutcomeAlike (run config (.memory s) (requests.map Request.call)).1
        (run config (.memory s) (requests'.map Request.call)).1 ∧
      ∃ final final', (run config (.memory s) (requests.map Request.call)).2 = .memory final ∧
        (run config (.memory s) (requests'.map Request.call)).2 = .memory final' ∧
        final.Alike final' :=
  run_alike h (.refl s)

/-- The sample delivery with a given reference time. -/
def sampleRequest (given : DateTime) : Request where
  caller := .blocking
  body := [120, 10, 121]
  fields := (sampleCall "n" [120, 10, 121] 5).fields
  given := some given
  clock := sampleMinute 0

/-- The fifth minute on a clock that is five and three quarter hours ahead. -/
def sampleAhead : DateTime :=
  ⟨epochWall + 21000000000, some ⟨20700000000, by decide⟩, by decide⟩

/-- The sixth minute without an offset. -/
def sampleNaive : DateTime := ⟨epochWall + 360000000, none, by decide⟩

theorem restates_sampleRequests :
    List.Forall₂ (Request.Restates sampleConfig)
      [sampleRequest (sampleMinute 5), sampleRequest (sampleMinute 6)]
      [sampleRequest sampleAhead, sampleRequest sampleNaive] := by
  have hrestates {t t' : DateTime} (h : SameInstant sampleConfig t t') :
      (sampleRequest t).Restates sampleConfig (sampleRequest t') :=
    ⟨rfl, rfl, rfl, rfl, .some h⟩
  refine .cons (hrestates (sameInstant_of_canAdd nonceLifetime_sampleConfig (by decide) ?_ ?_))
    (.cons (hrestates (sameInstant_of_canAdd nonceLifetime_sampleConfig (by decide) ?_ ?_)) .nil)
  all_goals exact DateTime.canAdd_iff.2 (by decide +kernel)

theorem resultAt_sampleRequests :
    resultAt sampleConfig
        ([sampleRequest (sampleMinute 5), sampleRequest (sampleMinute 6)].map Request.call) 0 =
      some (.ok .verified) ∧
      resultAt sampleConfig
          ([sampleRequest (sampleMinute 5), sampleRequest (sampleMinute 6)].map Request.call) 1 =
        some (.ok (.rejected .replayDetected none)) := by
  show resultAt sampleConfig
      [sampleCall "n" [120, 10, 121] 5, sampleCall "n" [120, 10, 121] 6] 0 = _ ∧
    resultAt sampleConfig
      [sampleCall "n" [120, 10, 121] 5, sampleCall "n" [120, 10, 121] 6] 1 = _
  have hfirst := sampleCall_asks_n (m := 5) (by decide)
  have hsecond := sampleCall_asks_n (m := 6) (by decide)
  have hgrant : Grants sampleConfig [sampleCall "n" [120, 10, 121] 5,
      sampleCall "n" [120, 10, 121] 6] 0 ⟨"n", sampleMinute 15⟩ :=
    ⟨_, rfl, hfirst, MemoryStore.not_holds_empty⟩
  constructor
  · rw [hfirst.resultAt_eq rfl, if_neg]
    exact MemoryStore.not_holds_empty
  · rw [hsecond.resultAt_eq rfl, if_pos]
    refine hgrant.holds Nat.one_pos rfl fun k between hpos hle hbetween => ?_
    obtain rfl : k = 1 := by omega
    cases hbetween
    decide

/-- The replay of a delivery is found although the times do not even both state an offset. -/
theorem run_restated_samples :
    List.Forall₂ (Request.Restates sampleConfig)
        [sampleRequest (sampleMinute 5), sampleRequest (sampleMinute 6)]
        [sampleRequest sampleAhead, sampleRequest sampleNaive] ∧
      resultAt sampleConfig
          ([sampleRequest sampleAhead, sampleRequest sampleNaive].map Request.call) 0 =
        some (.ok .verified) ∧
      resultAt sampleConfig
          ([sampleRequest sampleAhead, sampleRequest sampleNaive].map Request.call) 1 =
        some (.ok (.rejected .replayDetected none)) := by
  obtain ⟨houtcomes, -⟩ := run_restated .empty restates_sampleRequests
  obtain ⟨hfirst, hsecond⟩ := resultAt_sampleRequests
  exact ⟨restates_sampleRequests, (resultAt_of_alike houtcomes 0).trans hfirst,
    (resultAt_of_alike houtcomes 1).trans hsecond⟩

end Verifier

end WebhookAuth
