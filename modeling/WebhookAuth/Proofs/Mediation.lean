import WebhookAuth.Proofs.BodyForwarding
import WebhookAuth.Proofs.Overtaking
import WebhookAuth.Proofs.Sequence
import WebhookAuth.Proofs.Wording

/-!
# Complete mediation

Requests come through either gateway, to guards that share one verifier. Whether the application is
called for a request to a guarded path follows from the verification of this request alone; a denial
and a mark say what it found (`Visit.Mediates`). Over a local store and with a nonce required, a
nonce reaches the application at most once while the reference times lie less than its lifetime
apart, through whichever gateway (`visits_mediated`).
-/

namespace WebhookAuth

open Verifier

/-- What the guard says of a request that it passes on. -/
def Decision.of (verdict : Verdict) : Decision := if verdict.isVerified then .allow else .observe

namespace Guard

variable {g : Guard} {w : Wording} {app : Application} {readable : Option Bytes}
  {o : Verifier.Outcome} {verdict : Verdict}

/-- A request that may pass is passed on with its decision. -/
theorem settle_of_pass (hresult : o.result = .ok verdict)
    (hpass : g.requireVerified = true → verdict = .verified) :
    g.settle w app readable o = pass w app readable (Decision.of verdict) verdict o := by
  unfold settle
  rw [hresult]
  cases verdict with
  | verified => rfl
  | rejected reason detail =>
    dsimp only
    rw [if_neg fun hrequired => by cases hpass hrequired]
    rfl

/-- A request that may not pass is denied. -/
theorem settle_of_denied {reason : Reason} {detail : Option String}
    (hrequired : g.requireVerified = true) (hresult : o.result = .ok (.rejected reason detail)) :
    g.settle w app readable o =
      ⟨.ok (w.denial reason), false, none, some ⟨true, some (.rejected reason detail)⟩, o.store,
        o.commands, o.log⟩ := by
  unfold settle
  rw [hresult]
  exact if_pos hrequired

/-- A fault of the verifier is passed on. -/
theorem settle_of_fault {fault : Fault} (hresult : o.result = .error fault) :
    g.settle w app readable o =
      ⟨.error (.verifier fault), false, none, none, o.store, o.commands, o.log⟩ := by
  unfold settle
  rw [hresult]

theorem store_settle : (g.settle w app readable o).store = o.store := by
  unfold settle
  cases o.result with
  | error fault => rfl
  | ok verdict =>
    cases verdict with
    | verified => rfl
    | rejected reason detail =>
      dsimp only
      split_ifs <;> rfl

end Guard

/-! ### Requests of either kind -/

/-- A request to one of the gateways, the one for chunks on a framework that puts fields into
responses. -/
inductive GatewayRequest where
  | cgi (r : Cgi.Request)
  | chunked (a : Chunked.Assignment) (r : Chunked.Request)

namespace GatewayRequest

/-- The path of the request. -/
def path : GatewayRequest → String
  | cgi r => r.path
  | chunked _ r => r.path

/-- How the gateway writes. -/
def wording : GatewayRequest → Guard.Wording
  | cgi _ => Cgi.wording
  | chunked a _ => Chunked.wording a

/-- The body that the request has for the application, as long as nobody has read it. -/
def stream : GatewayRequest → Option Bytes
  | cgi r => r.stream
  | chunked _ r => some r.body

/-- The call of the verifier for the request, and the body left for the application. -/
def reading (clock : DateTime) : GatewayRequest → Except GatewayFault (Call × Option Bytes)
  | cgi r => r.readBody.map fun found => (⟨.blocking, found.1, r.fields, clock⟩, found.2)
  | chunked _ r => .ok (⟨.awaiting, r.body, r.fields, clock⟩, some r.body)

/-- Handles the request at its gateway. -/
def handle (g : Guard) (app : Application) (store : NonceStore) (clock : DateTime) :
    GatewayRequest → Exchange
  | cgi r => Cgi.handle g app store clock r
  | chunked a r => Chunked.handle a g app store clock r

theorem faithful_wording (r : GatewayRequest) : r.wording.Faithful := by
  cases r with
  | cgi r => exact Cgi.faithful_wording
  | chunked a r => exact Chunked.faithful_wording a

/-- Both gateways let a request to another path be, fail for a body that cannot be read, and leave
everything else to the verifier. -/
theorem handle_eq (g : Guard) (app : Application) (store : NonceStore) (clock : DateTime)
    (r : GatewayRequest) :
    r.handle g app store clock =
      if !g.protects r.path then Guard.bypass app r.stream store
      else match r.reading clock with
        | .error fault => Guard.failed fault store
        | .ok (call, readable) => g.settle r.wording app readable (verify g.config store call) := by
  cases r with
  | cgi r =>
    unfold handle Cgi.handle reading
    dsimp only [path, stream, wording]
    congr 1
    cases r.readBody with
    | error fault => rfl
    | ok found => rfl
  | chunked a r => rfl

theorem now_of_reading {clock : DateTime} {r : GatewayRequest} {call : Call}
    {readable : Option Bytes} (h : r.reading clock = .ok (call, readable)) : call.now = clock := by
  cases r with
  | cgi r =>
    dsimp only [reading] at h
    cases hbody : r.readBody with
    | error fault =>
      rw [hbody] at h
      cases h
    | ok found =>
      rw [hbody] at h
      cases h
      rfl
  | chunked a r =>
    cases h
    rfl

end GatewayRequest

/-! ### One request -/

/-- A request to a guard before an application, with the reading of the verifier's clock. -/
structure Visit where
  paths : Option (List String)
  requireVerified : Bool
  app : Application
  clock : DateTime
  request : GatewayRequest

namespace Visit

variable {config : Config} {store : NonceStore} {v : Visit} {e : Exchange}

/-- The guard of the request. -/
def guard (config : Config) (v : Visit) : Guard := ⟨config, v.paths, v.requireVerified⟩

/-- Is the path of the request one to verify? -/
def isGuarded (v : Visit) : Bool := v.paths.all (·.contains v.request.path)

/-- What comes of the request. -/
def exchange (config : Config) (store : NonceStore) (v : Visit) : Exchange :=
  v.request.handle (v.guard config) v.app store v.clock

theorem exchange_eq (config : Config) (store : NonceStore) (v : Visit) :
    v.exchange config store =
      if !v.isGuarded then Guard.bypass v.app v.request.stream store
      else match v.request.reading v.clock with
        | .error fault => Guard.failed fault store
        | .ok (call, readable) =>
          (v.guard config).settle v.request.wording v.app readable (verify config store call) :=
  v.request.handle_eq (v.guard config) v.app store v.clock

/-- The call of the verifier for the request. -/
def call? (v : Visit) : Except GatewayFault Call := (v.request.reading v.clock).map (·.1)

/-- What the verification of the request finds: a verdict, or that it fails. -/
def result (config : Config) (store : NonceStore) (v : Visit) : Except GatewayFault Verdict :=
  v.call?.bind fun call => (verify config store call).result.mapError .verifier

/-- The response is the application's, with a decision on it. -/
structure Carries (response marked : Response) (decision : Decision) : Prop where
  status_eq : marked.status = response.status
  body_eq : marked.body = response.body
  otherFields_eq : otherFields marked.fields = otherFields response.fields
  mem_decisions : decision.name ∈ decisions marked.fields
  decisions_eq : decisions response.fields = [] → decisions marked.fields = [decision.name]

/-- What comes of a request follows from its verification. To another path it passes untouched. To a
guarded one the application is called just if the request is verified, or has a verdict where that
is enough; a denial tells the reason, and a response that is passed on the decision. -/
structure Mediates (config : Config) (store : NonceStore) (v : Visit) (e : Exchange) : Prop where
  untouched : v.isGuarded = false →
    e.called = true ∧ e.response = (v.app v.request.stream).mapError .application ∧
      e.state = some ⟨false, none⟩ ∧ e.store = store ∧ e.commands = [] ∧ e.log = []
  called_iff_verified : v.isGuarded = true → v.requireVerified = true →
    (e.called = true ↔ v.result config store = .ok .verified)
  called_iff_verdict : v.isGuarded = true → v.requireVerified = false →
    (e.called = true ↔ ∃ verdict, v.result config store = .ok verdict)
  state_eq : v.isGuarded = true → ∀ verdict, v.result config store = .ok verdict →
    e.state = some ⟨true, some verdict⟩
  denied : v.isGuarded = true → v.requireVerified = true → ∀ reason detail,
    v.result config store = .ok (.rejected reason detail) →
    ∃ response, e.response = .ok response ∧ response.status = .unauthorized ∧
      TellsReason response.body reason ∧ decisions response.fields = [Decision.deny.name]
  carried : v.isGuarded = true → e.called = true → ∀ verdict, v.result config store = .ok verdict →
    ∀ response, v.app e.seen = .ok response →
    ∃ marked, e.response = .ok marked ∧ Carries response marked (Decision.of verdict)
  failed : v.isGuarded = true → ∀ fault, v.result config store = .error fault →
    e.called = false ∧ e.response = .error fault

theorem carries_mark {w : Guard.Wording} (hw : w.Faithful) (response : Response)
    (decision : Decision) :
    Carries response { response with fields := w.mark decision response.fields } decision :=
  ⟨rfl, rfl, hw.otherFields_mark decision _, hw.mem_decisions_mark decision _,
    hw.decisions_mark decision _⟩

theorem mediates_of_bypass (h : v.isGuarded = false)
    (he : e = Guard.bypass v.app v.request.stream store) : v.Mediates config store e := by
  subst he
  refine ⟨fun _ => ⟨rfl, rfl, rfl, rfl, rfl, rfl⟩, ?_, ?_, ?_, ?_, ?_, ?_⟩
  all_goals
    intro hguarded
    cases h.symm.trans hguarded

theorem mediates_of_failed {fault : GatewayFault} (h : v.isGuarded = true)
    (hresult : v.result config store = .error fault) (hcalled : e.called = false)
    (hresponse : e.response = .error fault) : v.Mediates config store e := by
  refine ⟨fun hbypassed => ?_, fun _ _ => ?_, fun _ _ => ?_, fun _ verdict hverdict => ?_,
    fun _ _ reason detail hdenied => ?_, fun _ hcalled' => ?_, fun _ fault' hfault => ?_⟩
  · cases h.symm.trans hbypassed
  · rw [hcalled, hresult]
    simp
  · rw [hcalled, hresult]
    simp
  · cases hresult.symm.trans hverdict
  · cases hresult.symm.trans hdenied
  · cases hcalled.symm.trans hcalled'
  · cases hresult.symm.trans hfault
    exact ⟨hcalled, hresponse⟩

theorem mediates_of_denied {reason : Reason} {detail : Option String} {o : Verifier.Outcome}
    (h : v.isGuarded = true) (hrequired : v.requireVerified = true)
    (hresult : v.result config store = .ok (.rejected reason detail))
    (he : e = ⟨.ok (v.request.wording.denial reason), false, none,
      some ⟨true, some (.rejected reason detail)⟩, o.store, o.commands, o.log⟩) :
    v.Mediates config store e := by
  have hfaithful := v.request.faithful_wording
  subst he
  refine ⟨fun hbypassed => ?_, fun _ _ => ?_, fun _ hopen => ?_, fun _ verdict hverdict => ?_,
    fun _ _ reason' detail' hdenied => ?_, fun _ hcalled => ?_, fun _ fault hfault => ?_⟩
  · cases h.symm.trans hbypassed
  · rw [hresult]
    simp
  · cases hrequired.symm.trans hopen
  · cases hresult.symm.trans hverdict
    rfl
  · cases hresult.symm.trans hdenied
    exact ⟨_, rfl, hfaithful.status_denial reason, hfaithful.tellsReason_denial reason,
      hfaithful.decisions_denial reason⟩
  · cases hcalled
  · cases hresult.symm.trans hfault

theorem mediates_of_pass {verdict : Verdict} {readable : Option Bytes} {o : Verifier.Outcome}
    (h : v.isGuarded = true) (hpass : v.requireVerified = true → verdict = .verified)
    (hresult : v.result config store = .ok verdict)
    (he : e = Guard.pass v.request.wording v.app readable (Decision.of verdict) verdict o) :
    v.Mediates config store e := by
  subst he
  refine ⟨fun hbypassed => ?_, fun _ hrequired => ?_, fun _ _ => ?_, fun _ verdict' hverdict => ?_,
    fun _ hrequired reason detail hdenied => ?_, fun _ _ verdict' hverdict response happ => ?_,
    fun _ fault hfault => ?_⟩
  · cases h.symm.trans hbypassed
  · rw [hresult, hpass hrequired]
    exact iff_of_true rfl rfl
  · exact iff_of_true rfl ⟨verdict, hresult⟩
  · cases hresult.symm.trans hverdict
    rfl
  · cases (hpass hrequired).symm.trans (Except.ok.inj (hresult.symm.trans hdenied))
  · cases hresult.symm.trans hverdict
    have happ : v.app readable = .ok response := happ
    refine ⟨_, ?_, carries_mark v.request.faithful_wording response _⟩
    unfold Guard.pass
    rw [happ]
    rfl
  · cases hresult.symm.trans hfault

/-- The guard mediates every request. -/
theorem mediates (config : Config) (store : NonceStore) (v : Visit) :
    v.Mediates config store (v.exchange config store) := by
  rw [exchange_eq]
  cases hguarded : v.isGuarded with
  | false => exact mediates_of_bypass hguarded rfl
  | true =>
    cases hreading : v.request.reading v.clock with
    | error fault =>
      have hresult : v.result config store = .error fault := by
        unfold result call?
        rw [hreading]
        rfl
      exact mediates_of_failed hguarded hresult rfl rfl
    | ok found =>
      obtain ⟨call, readable⟩ := found
      have hresult : v.result config store =
          (verify config store call).result.mapError .verifier := by
        unfold result call?
        rw [hreading]
        rfl
      rw [Bool.not_true, if_neg Bool.false_ne_true]
      dsimp only
      cases hverify : (verify config store call).result with
      | error fault =>
        rw [hverify] at hresult
        rw [Guard.settle_of_fault hverify]
        exact mediates_of_failed hguarded hresult rfl rfl
      | ok verdict =>
        rw [hverify] at hresult
        by_cases hpass : v.requireVerified = true → verdict = .verified
        · rw [Guard.settle_of_pass hverify hpass]
          exact mediates_of_pass hguarded hpass hresult rfl
        · rw [Classical.not_imp] at hpass
          cases verdict with
          | verified => exact absurd rfl hpass.2
          | rejected reason detail =>
            rw [Guard.settle_of_denied hpass.1 hverify]
            exact mediates_of_denied hguarded hpass.1 hresult rfl

theorem now_of_call? {call : Call} (h : v.call? = .ok call) : call.now = v.clock := by
  unfold call? at h
  cases hreading : v.request.reading v.clock with
  | error fault =>
    rw [hreading] at h
    cases h
  | ok found =>
    rw [hreading] at h
    cases h
    exact GatewayRequest.now_of_reading hreading

theorem result_of_call? {call : Call} (h : v.call? = .ok call) :
    v.result config store = (verify config store call).result.mapError .verifier := by
  unfold result
  rw [h]
  rfl

/-- The local store that a request leaves. -/
def tableAfter (config : Config) (s : MemoryStore) (v : Visit) : MemoryStore :=
  if v.isGuarded then
    match v.call? with
    | .ok call => Verifier.tableAfter config s call
    | .error _ => s
  else s

theorem store_exchange (config : Config) (s : MemoryStore) (v : Visit) :
    (v.exchange config (.memory s)).store = .memory (v.tableAfter config s) := by
  rw [exchange_eq]
  unfold tableAfter call?
  cases v.isGuarded with
  | false => rfl
  | true =>
    cases v.request.reading v.clock with
    | error fault => rfl
    | ok found =>
      obtain ⟨call, readable⟩ := found
      rw [Bool.not_true, if_neg Bool.false_ne_true]
      exact Guard.store_settle.trans (store_verify_memory config s call)

/-- A request keeps the records that are not over at its reference time. -/
theorem keeps_tableAfter {s : MemoryStore} {r : NonceRecord} (hs : s.AllAware)
    (hr : r ∈ s.records) (hlive : v.clock.instant < r.expires.instant) :
    (v.tableAfter config s).AllAware ∧ r ∈ (v.tableAfter config s).records := by
  unfold tableAfter
  split_ifs with hguarded
  · cases hcall : v.call? with
    | error fault => exact ⟨hs, hr⟩
    | ok call =>
      refine ⟨allAware_tableAfter hs call, mem_tableAfter_of_live hs hr ?_⟩
      rw [now_of_call? hcall]
      exact hlive
  · exact ⟨hs, hr⟩

end Visit

/-! ### Many requests -/

variable {config : Config} {start : MemoryStore} {visits : List Visit} {v : Visit}
  {lifetime : Duration} {nonce : String} {i j k first last : ℕ}

/-- What comes of requests, one after another. -/
def exchanges (config : Config) (start : NonceStore) (visits : List Visit) : List Exchange :=
  Sequence.results (fun store (v : Visit) => v.exchange config store) (·.store) start visits

/-- The local store that the request at an index finds. -/
def localBefore (config : Config) (start : MemoryStore) (visits : List Visit) (k : ℕ) :
    MemoryStore :=
  Sequence.before (fun s (v : Visit) => v.tableAfter config s) id start visits k

theorem localBefore_succ (h : visits[k]? = some v) :
    localBefore config start visits (k + 1) =
      v.tableAfter config (localBefore config start visits k) :=
  Sequence.before_succ _ _ h

/-- The store stays local. -/
theorem getElem?_exchanges (config : Config) (start : MemoryStore) (h : visits[k]? = some v) :
    (exchanges config (.memory start) visits)[k]? =
      some (v.exchange config (.memory (localBefore config start visits k))) := by
  have hlocal : Sequence.before (fun store (v : Visit) => v.exchange config store) (·.store)
      (.memory start) visits k = .memory (localBefore config start visits k) :=
    Sequence.before_map _ _ _ _ _ (fun s v => v.store_exchange config s) start visits k
  unfold exchanges
  rw [Sequence.getElem?_results, h, hlocal]
  rfl

/-- The request at an index is to a guarded path, where it must be verified to pass; it carries this
nonce, and the application is called. -/
def Reaches (config : Config) (start : MemoryStore) (visits : List Visit) (k : ℕ)
    (nonce : String) : Prop :=
  ∃ v e call, visits[k]? = some v ∧ (exchanges config (.memory start) visits)[k]? = some e ∧
    v.isGuarded = true ∧ v.requireVerified = true ∧ v.call? = .ok call ∧
    (call.delivery config).nonce = some nonce ∧ e.called = true

/-- The reference times of the requests from an index to another lie less than a duration apart. -/
def CloseBetween (visits : List Visit) (span : Duration) (first last : ℕ) : Prop :=
  ∀ k l v w, first ≤ k → k ≤ last → first ≤ l → l ≤ last → visits[k]? = some v →
    visits[l]? = some w → w.clock.instant < v.clock.instant + span.micros

/-- A nonce that reaches the application was free, and leaves its record. -/
theorem Reaches.exists_record (hpolicy : config.policy = .required)
    (hlifetime : config.nonceLifetime = .ok lifetime) (h : Reaches config start visits k nonce) :
    ∃ v expires, visits[k]? = some v ∧
      expires.instant = v.clock.instant + lifetime.micros ∧
      ¬(localBefore config start visits k).Holds nonce v.clock ∧
      (localBefore config start visits (k + 1)).AllAware ∧
      ⟨nonce, expires⟩ ∈ (localBefore config start visits (k + 1)).records := by
  obtain ⟨v, e, call, hv, he, hguarded, hrequired, hcall, hnonce, hcalled⟩ := h
  rw [getElem?_exchanges config start hv, Option.some.injEq] at he
  subst he
  have hresult := ((v.mediates config _).called_iff_verified hguarded hrequired).1 hcalled
  rw [Visit.result_of_call? hcall, mapError_eq_ok_iff] at hresult
  obtain ⟨asked, expires, hask⟩ := exists_asks_of_verified hpolicy hresult
  have hasked := hask.nonceOf_eq
  rw [nonceOf_of_required hpolicy, hnonce, Option.some.injEq] at hasked
  subst hasked
  obtain ⟨hs, hfree, hmem⟩ := hask.of_verified hresult
  have hafter : localBefore config start visits (k + 1) =
      tableAfter config (localBefore config start visits k) call := by
    rw [localBefore_succ hv, Visit.tableAfter, if_pos hguarded, hcall]
  have hnow : call.now = v.clock := Visit.now_of_call? hcall
  refine ⟨v, expires, hv, ?_, hnow ▸ hfree, ?_, ?_⟩
  · rw [hask.instant_expires hlifetime, hnow]
  · rw [hafter]
    exact allAware_tableAfter hs call
  · rw [hafter]
    exact (hmem _).2 (.inr rfl)

/-- A nonce reaches the application at most once while its record lasts. -/
theorem Reaches.not_again (hpolicy : config.policy = .required)
    (hlifetime : config.nonceLifetime = .ok lifetime) (hi : Reaches config start visits i nonce)
    (hj : Reaches config start visits j nonce) (hclose : CloseBetween visits lifetime i j) :
    ¬i < j := by
  intro hij
  obtain ⟨v, expires, hv, hexpires, -, haware, hmem⟩ := hi.exists_record hpolicy hlifetime
  obtain ⟨w, -, hw, -, hfree, -⟩ := hj.exists_record hpolicy hlifetime
  have hlive : ∀ k u, i + 1 ≤ k → k ≤ j → visits[k]? = some u →
      u.clock.instant < expires.instant := by
    intro k u hik hkj hu
    rw [hexpires]
    exact hclose i k v u le_rfl (by omega) (by omega) hkj hv hu
  have hkept : (localBefore config start visits j).AllAware ∧
      ⟨nonce, expires⟩ ∈ (localBefore config start visits j).records := by
    refine Sequence.before_of_le (P := fun s : MemoryStore => s.AllAware ∧
      ⟨nonce, expires⟩ ∈ s.records) _ _ hij ⟨haware, hmem⟩ fun k u hik hkj hu hs => ?_
    exact Visit.keeps_tableAfter hs.1 hs.2 (hlive k u hik (by omega) hu)
  exact hfree ⟨_, hkept.2, rfl, hlive j w hij le_rfl hw⟩

/-- Requests to guards that share a verifier, which requires a nonce, and a local store are mediated
one by one; and among requests whose reference times lie less than the lifetime of a nonce apart a
nonce reaches the application at most once. -/
theorem visits_mediated (hpolicy : config.policy = .required) (start : MemoryStore)
    (visits : List Visit) :
    (∀ (k : ℕ) (v : Visit), visits[k]? = some v →
        ∃ e, (exchanges config (.memory start) visits)[k]? = some e ∧
          v.Mediates config (.memory (localBefore config start visits k)) e) ∧
      ∀ lifetime first last, config.nonceLifetime = .ok lifetime →
        CloseBetween visits lifetime first last → ∀ nonce i j, first ≤ i → i ≤ last →
        first ≤ j → j ≤ last → Reaches config start visits i nonce →
        Reaches config start visits j nonce → i = j := by
  refine ⟨fun k v hv => ⟨_, getElem?_exchanges config start hv, v.mediates config _⟩, ?_⟩
  intro lifetime first last hlifetime hclose nonce i j hfi hil hfj hjl hi hj
  have hwithin : ∀ i j, first ≤ i → j ≤ last → CloseBetween visits lifetime i j :=
    fun i j hi hj k l v w hik hkj hil hlj =>
      hclose k l v w (hi.trans hik) (hkj.trans hj) (hi.trans hil) (hlj.trans hj)
  have hforth := hi.not_again hpolicy hlifetime hj (hwithin i j hfi hjl)
  have hback := hj.not_again hpolicy hlifetime hi (hwithin j i hfj hil)
  omega

/-! ### A sample -/

/-- The sample delivery as parameters and a stream. -/
def sampleParameters : Cgi.Request where
  parameters := [("PATH_INFO", "/hook"), ("CONTENT_LENGTH", "3"),
    ("HTTP_X_SWISH_TIMESTAMP", "300"), ("HTTP_X_SWISH_NONCE", "n"),
    ("HTTP_X_SWISH_SIGNATURE", sampleSignature)]
  stream := some [120, 10, 121]

/-- The sample delivery in two chunks. -/
def sampleChunks : Chunked.Request where
  path := "/hook"
  fields := [("x-swish-timestamp", "300"), ("x-swish-nonce", "n"),
    ("x-swish-signature", sampleSignature)]
  chunks := [[120, 10], [121]]

/-- A request to the guarded path in a minute, which must be verified to pass. -/
def sampleVisit (request : GatewayRequest) (m : ℕ) : Visit :=
  ⟨some ["/hook"], true, Cgi.sampleApplication, sampleMinute m, request⟩

/-- The sample delivery through the one gateway and, a minute later, through the other. -/
def sampleVisits : List Visit :=
  [sampleVisit (.cgi sampleParameters) 5, sampleVisit (.chunked .inPlace sampleChunks) 6]

theorem call?_sampleParameters :
    (sampleVisit (.cgi sampleParameters) 5).call? =
      .ok ⟨.blocking, [120, 10, 121], sampleParameters.fields, sampleMinute 5⟩ := by
  have hread : sampleParameters.readBody = .ok ([120, 10, 121], some [120, 10, 121]) := by
    decide +kernel
  unfold Visit.call? sampleVisit GatewayRequest.reading
  dsimp only
  rw [hread]
  rfl

theorem sampleParameters_asks :
    (⟨.blocking, [120, 10, 121], sampleParameters.fields, sampleMinute 5⟩ : Call).Asks
      sampleConfig "n" (sampleMinute 15) := by
  have hdelivery : Delivery.ofFields sampleConfig.names [120, 10, 121] sampleParameters.fields =
      Delivery.ofFields sampleConfig.names [120, 10, 121]
        (sampleCall "n" [120, 10, 121] 5).fields := by
    decide +kernel
  have hask : (sampleCall "n" [120, 10, 121] 5).Asks sampleConfig "n" (sampleMinute 15) :=
    sampleCall_asks_n (by decide)
  unfold Call.Asks Call.delivery at hask ⊢
  rw [hdelivery]
  exact hask

/-- The nonce reaches the application through the first gateway, and not again. -/
theorem sampleVisits_mediated :
    sampleConfig.policy = .required ∧
      (∃ e, (exchanges sampleConfig (.memory .empty) sampleVisits)[0]? = some e ∧
        e.called = true) ∧
      ∃ e, (exchanges sampleConfig (.memory .empty) sampleVisits)[1]? = some e ∧
        e.called = false := by
  obtain ⟨hstep, honce⟩ := @visits_mediated sampleConfig rfl .empty sampleVisits
  obtain ⟨e, he, hmediates⟩ := hstep 0 _ rfl
  obtain ⟨e', he', -⟩ := hstep 1 _ rfl
  have hempty : localBefore sampleConfig .empty sampleVisits 0 = .empty := rfl
  have hcalled : e.called = true := by
    refine (hmediates.called_iff_verified (by decide +kernel) rfl).2 ?_
    rw [Visit.result_of_call? call?_sampleParameters, hempty,
      sampleParameters_asks.result_eq MemoryStore.allAware_empty,
      if_neg MemoryStore.not_holds_empty]
    rfl
  have hfirst : Reaches sampleConfig .empty sampleVisits 0 "n" :=
    ⟨_, e, _, rfl, he, by decide +kernel, rfl, call?_sampleParameters,
      (nonceOf_eq_some_iff.1 sampleParameters_asks.nonceOf_eq).2, hcalled⟩
  have hclose : CloseBetween sampleVisits (.seconds 600) 0 1 := by
    have htimes : ∀ v ∈ sampleVisits, ∀ w ∈ sampleVisits,
        w.clock.instant < v.clock.instant + (Duration.seconds 600).micros := by
      decide +kernel
    exact fun k l v w _ _ _ _ hv hw =>
      htimes v (List.mem_of_getElem? hv) w (List.mem_of_getElem? hw)
  refine ⟨rfl, ⟨e, he, hcalled⟩, e', he', ?_⟩
  by_contra hagain
  rw [Bool.not_eq_false] at hagain
  have hsecond : Reaches sampleConfig .empty sampleVisits 1 "n" :=
    ⟨_, e', _, rfl, he', by decide +kernel, rfl, rfl, by decide +kernel, hagain⟩
  exact absurd (honce (.seconds 600) 0 1 nonceLifetime_sampleConfig hclose "n" 0 1 le_rfl
    (Nat.zero_le 1) (Nat.zero_le 1) le_rfl hfirst hsecond) Nat.zero_ne_one

end WebhookAuth
