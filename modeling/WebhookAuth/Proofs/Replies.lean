import WebhookAuth.Proofs.Callers
import WebhookAuth.Proofs.Sequence

/-!
# What clients of a remote store do

A client may do anything with a command: say that the key was set or was there, raise an error of
its own or another one, or never answer (`Conduct`). Whatever it does, a delivery is verified only
if its checks pass and the client says that the key was set; an outage makes the store unavailable,
with one warning of the store and one of the verifier; every other error is raised, without a
verdict. A caller that is cancelled learns of it just if it has no time at all or the command never
finishes: a limited wait that meets a reply goes on with it (`Attempt.FailsClosed`). This holds of
each of many attempts over one store, however the clients behaved before (`series_failsClosed`). The
clients of the server are one case (`verify_remote`).
-/

namespace WebhookAuth

/-! ### Replies -/

namespace Reply

variable {caller : Caller} {timeout : Option Duration} {reply : Reply} {e : StoreError}

/-- The reply is an outage: the client raises an error of its own, or somebody who awaits it runs
out of time. -/
inductive IsOutage (caller : Caller) (timeout : Option Duration) : Reply → Prop
  | refused : IsOutage caller timeout .refused
  | timedOut (awaited : caller ≠ .blocking) : IsOutage caller timeout .timedOut
  | silent (awaited : caller = .awaiting) (limited : timeout.isSome) :
      IsOutage caller timeout .silent

/-- The reply is an error that the store passes on. -/
inductive Raises (caller : Caller) (timeout : Option Duration) : Reply → StoreError → Prop
  | failed (text : String) : Raises caller timeout (.failed text) (.connection text)
  | timedOut (blocks : caller = .blocking) : Raises caller timeout .timedOut .timedOut
  | cancelled (h : caller = .cancelled) : Raises caller timeout .silent .cancelled
  | unanswered (h : caller ≠ .cancelled) (unlimited : ¬(caller = .awaiting ∧ timeout.isSome)) :
      Raises caller timeout .silent .unanswered

/-- A reply is an answer, an outage or another error. -/
theorem cases_of (caller : Caller) (timeout : Option Duration) (reply : Reply) :
    reply = .stored ∨ reply = .present ∨ reply.IsOutage caller timeout ∨
      ∃ e, reply.Raises caller timeout e := by
  cases reply with
  | stored => exact .inl rfl
  | present => exact .inr (.inl rfl)
  | refused => exact .inr (.inr (.inl .refused))
  | timedOut =>
    by_cases hblocks : caller = .blocking
    · exact .inr (.inr (.inr ⟨_, .timedOut hblocks⟩))
    · exact .inr (.inr (.inl (.timedOut hblocks)))
  | failed text => exact .inr (.inr (.inr ⟨_, .failed text⟩))
  | silent =>
    by_cases hcancelled : caller = .cancelled
    · exact .inr (.inr (.inr ⟨_, .cancelled hcancelled⟩))
    by_cases hlimited : caller = .awaiting ∧ timeout.isSome
    · exact .inr (.inr (.inl (.silent hlimited.1 hlimited.2)))
    · exact .inr (.inr (.inr ⟨_, .unanswered hcancelled hlimited⟩))

theorem IsOutage.settle_eq (h : reply.IsOutage caller timeout) :
    RemoteStore.settle caller timeout reply = .error .unavailable := by
  unfold RemoteStore.settle
  cases h with
  | refused => rfl
  | timedOut hawaited =>
    dsimp only
    rw [if_neg hawaited]
  | silent hawaited hlimited =>
    dsimp only
    rw [if_neg (by rw [hawaited]; decide), if_pos ⟨hawaited, hlimited⟩]

theorem Raises.settle_eq (h : reply.Raises caller timeout e) :
    RemoteStore.settle caller timeout reply = .error e := by
  unfold RemoteStore.settle
  cases h with
  | failed text => rfl
  | timedOut hblocks =>
    dsimp only
    rw [if_pos hblocks]
  | cancelled hcancelled =>
    dsimp only
    rw [if_pos hcancelled]
  | unanswered hcancelled hunlimited =>
    dsimp only
    rw [if_neg hcancelled, if_neg hunlimited]

/-- An error that is passed on does not say that the store is unavailable. -/
theorem Raises.ne_unavailable (h : reply.Raises caller timeout e) : e ≠ .unavailable := by
  cases h <;> simp

end Reply

namespace RemoteStore

variable {caller : Caller} {timeout : Option Duration} {reply : Reply}

/-- Only a key that was set is a grant. -/
theorem settle_eq_ok_true_iff : settle caller timeout reply = .ok true ↔ reply = .stored := by
  cases reply <;> simp [settle]

/-- Only an outage makes the store unavailable. -/
theorem settle_eq_unavailable_iff :
    settle caller timeout reply = .error .unavailable ↔ reply.IsOutage caller timeout := by
  refine ⟨fun h => ?_, Reply.IsOutage.settle_eq⟩
  rcases reply.cases_of caller timeout with rfl | rfl | houtage | ⟨e, hraises⟩
  · cases h
  · cases h
  · exact houtage
  · rw [hraises.settle_eq, Except.error.injEq] at h
    exact absurd h hraises.ne_unavailable

/-- Only a command that never finishes passes the cancellation of its caller on. -/
theorem settle_eq_cancelled_iff :
    settle caller timeout reply = .error .cancelled ↔ caller = .cancelled ∧ reply = .silent := by
  unfold settle
  cases reply with
  | silent => cases caller <;> cases timeout <;> simp
  | timedOut => cases caller <;> simp
  | stored | present | refused | failed => simp

theorem missingClient_ne_unavailable (caller : Caller) : missingClient caller ≠ .unavailable := by
  cases caller <;> simp [missingClient]

/-- A command fails for its nonce or for its times, not for the server. -/
theorem command_ne_unavailable {s : RemoteStore} {nonce : String} {expires now : DateTime} :
    s.command nonce expires now ≠ .error .unavailable := by
  unfold command
  split_ifs
  · simp
  · cases s.ttlMillis expires now <;> simp

/-- Only that the store is unavailable is logged. -/
theorem logOf_of_ne {answer : Except StoreError Bool} (h : answer ≠ .error .unavailable) :
    logOf answer = [] := by
  unfold logOf
  split
  · exact absurd rfl h
  · rfl

/-- The store with another server. -/
def withServer (s : RemoteStore) (server : Server) : RemoteStore := { s with server }

/-- A reservation changes nothing of the store but the server behind it. -/
theorem store_reserveVia (conduct : Conduct) (s : RemoteStore) (caller : Caller) (nonce : String)
    (expires now : DateTime) :
    (reserveVia conduct s caller nonce expires now).store =
      s.withServer (reserveVia conduct s caller nonce expires now).store.server := by
  unfold reserveVia
  by_cases hclient : (s.clientOf caller).isNone
  · rw [if_pos hclient]
    rfl
  rw [if_neg hclient]
  cases s.command nonce expires now with
  | error e => rfl
  | ok c =>
    dsimp only
    by_cases htime : s.givesNoTime caller = true
    · rw [if_pos htime]
      rfl
    · rw [if_neg htime]
      rfl

end RemoteStore

namespace Verifier

variable {config : Config} {call : Call}

/-- A call over a remote store is one through the clients of its server. -/
theorem verify_remote (config : Config) (s : RemoteStore) (call : Call) :
    verify config (.remote s) call =
      let o := verifyOver (RemoteStore.reserveVia Server.reply) config s call
      ⟨o.result, .remote o.store, o.commands, o.log⟩ := by
  unfold verify verifyOver
  dsimp only
  cases plan config (call.delivery config) call.now with
  | error fault => rfl
  | ok p =>
    cases p with
    | reject reason detail => rfl
    | accept => rfl
    | reserve nonce expires =>
      unfold carryOut carryOutWith ofReservation NonceStore.reserve RemoteStore.reserve
      dsimp only
      cases (RemoteStore.reserveVia Server.reply s call.caller nonce expires call.now).answer with
      | error e => cases e <;> rfl
      | ok granted => cases granted <;> rfl

section Reservations

variable {Store : Type} {r : Reservation Store} {nonce : String}

theorem commands_ofReservation (nonce : String) (r : Reservation Store) :
    (ofReservation nonce r).commands = r.commands := by
  unfold ofReservation
  split <;> rfl

/-- Only a grant verifies a delivery with a nonce. -/
theorem result_ofReservation_eq_verified_iff :
    (ofReservation nonce r).result = .ok .verified ↔ r.answer = .ok true := by
  refine ⟨fun h => ?_, result_ofReservation_granted nonce⟩
  unfold ofReservation at h
  split at h
  · cases h
  · cases h
  · cases h
  · assumption

theorem ofReservation_of_unavailable (nonce : String) (h : r.answer = .error .unavailable) :
    ofReservation nonce r =
      rejected .storeUnavailable none (some nonce) r.store r.commands r.log := by
  unfold ofReservation
  rw [h]

theorem result_ofReservation_eq_unavailable_iff :
    (ofReservation nonce r).result = .ok (.rejected .storeUnavailable none) ↔
      r.answer = .error .unavailable := by
  refine ⟨fun h => ?_, fun h => by rw [ofReservation_of_unavailable nonce h]; rfl⟩
  unfold ofReservation at h
  split at h
  · assumption
  · cases h
  · cases h
  · cases h

/-- A reservation with an error that it passes on has no verdict. -/
theorem ofReservation_of_raised (nonce : String) {e : StoreError} (h : r.answer = .error e)
    (he : e ≠ .unavailable) :
    ofReservation nonce r = ⟨.error (.store e), r.store, r.commands, r.log⟩ := by
  unfold ofReservation
  rw [h]
  cases e with
  | unavailable => exact absurd rfl he
  | _ => rfl

end Reservations

theorem TurnsAway.ne_verified {result : Except Fault Verdict} (h : TurnsAway result) :
    result ≠ .ok .verified := by
  rcases h with ⟨fault, rfl⟩ | ⟨reason, -, detail, rfl⟩ <;> simp

theorem TurnsAway.ne_unavailable {result : Except Fault Verdict} (h : TurnsAway result)
    (detail : Option String) : result ≠ .ok (.rejected .storeUnavailable detail) := by
  rcases h with ⟨fault, rfl⟩ | ⟨reason, hearly, detail', rfl⟩
  · simp
  · rintro ⟨⟩
    exact absurd hearly (by decide)

/-! ### One attempt -/

/-- A call of a verifier, and what the client does if it gets a command. -/
structure Attempt where
  config : Config
  conduct : Conduct
  call : Call

namespace Attempt

variable {a : Attempt} {s : RemoteStore} {c c' : SetCommand} {nonce : String}

/-- What comes of the attempt. -/
def outcome (s : RemoteStore) (a : Attempt) : OutcomeOver RemoteStore :=
  verifyOver (RemoteStore.reserveVia a.conduct) a.config s a.call

/-- The nonce that counts for the attempt, if any. -/
def nonce? (a : Attempt) : Option String := nonceOf a.config (a.call.delivery a.config)

/-- What the client says to a command. -/
def reply (a : Attempt) (s : RemoteStore) (c : SetCommand) : Reply :=
  (a.conduct s.server a.call.caller c).1

/-- The delivery passes every check that needs no store, the caller's client is there, and this is
the command for the nonce. -/
structure Issues (a : Attempt) (s : RemoteStore) (c : SetCommand) : Prop where
  isAuthentic : a.call.IsAuthentic a.config
  client : (s.clientOf a.call.caller).isSome
  command_eq : ∃ nonce expires, a.call.Asks a.config nonce expires ∧
    s.command nonce expires a.call.now = .ok c

/-- The command reaches the client. -/
structure Sends (a : Attempt) (s : RemoteStore) (c : SetCommand) : Prop extends a.Issues s c where
  givesTime : s.givesNoTime a.call.caller = false

/-- The client's reply to the command is an outage, or there is no time at all to wait for it. -/
def MeetsOutage (a : Attempt) (s : RemoteStore) : Prop :=
  ∃ c, (a.Sends s c ∧ (a.reply s c).IsOutage a.call.caller s.timeout) ∨
    (a.Issues s c ∧ a.call.caller = .awaiting ∧ s.givesNoTime .awaiting = true)

/-- The caller is cancelled while it waits: for a command that never finishes, or in a limited wait,
which takes a moment even if the reply is there. -/
def IsCancelled (a : Attempt) (s : RemoteStore) (c : SetCommand) : Prop :=
  a.call.caller = .cancelled ∧ (s.timeout.isSome ∨ a.reply s c = .silent)

/-- The outcome is closed to everything but a key that was set: such a reply to the command of this
attempt is what a verified delivery has, an outage is one warning of the store and one of the
verifier, and any other error is raised. A cancellation is passed on if nothing else has come of the
command. -/
structure FailsClosed (a : Attempt) (s : RemoteStore) (nonce : String)
    (o : OutcomeOver RemoteStore) : Prop where
  verified_iff : o.result = .ok .verified ↔
    ∃ c, a.Sends s c ∧ a.reply s c = .stored ∧ o.commands = [c]
  unavailable_iff : o.result = .ok (.rejected .storeUnavailable none) ↔ a.MeetsOutage s
  log_of_outage : a.MeetsOutage s →
    o.log = [.storeUnavailable, .rejected .storeUnavailable (some nonce)]
  raised : ∀ c e, a.Sends s c → (a.reply s c).Raises a.call.caller s.timeout e →
    o.result = .error (.store e) ∧ o.log = []
  cancelled_iff : ∀ c, a.Issues s c → a.IsCancelled s c →
    (o.result = .error (.store .cancelled) ↔
      s.givesNoTime .cancelled = true ∨ a.reply s c = .silent)
  log_of_cancelled : o.result = .error (.store .cancelled) → o.log = []

theorem Issues.unique (h : a.Issues s c) (h' : a.Issues s c') : c = c' := by
  obtain ⟨nonce, expires, hask, hcommand⟩ := h.command_eq
  obtain ⟨nonce', expires', hask', hcommand'⟩ := h'.command_eq
  cases hask.symm.trans hask'
  exact Except.ok.inj (hcommand.symm.trans hcommand')

/-- The reservation for a command that is issued. -/
theorem Issues.outcome_eq (h : a.Issues s c) (hnonce : a.nonce? = some nonce) :
    a.outcome s = ofReservation nonce
      (if s.givesNoTime a.call.caller then
          ⟨RemoteStore.giveUp a.call.caller, s, [],
            RemoteStore.logOf (RemoteStore.giveUp a.call.caller)⟩
        else
          ⟨RemoteStore.settle a.call.caller s.timeout (a.reply s c),
            s.withServer (a.conduct s.server a.call.caller c).2,
            if a.reply s c = .silent then [] else [c],
            RemoteStore.logOf (RemoteStore.settle a.call.caller s.timeout (a.reply s c))⟩) := by
  obtain ⟨asked, expires, hask, hcommand⟩ := h.command_eq
  have hnonce : asked = nonce := Option.some.inj (hask.nonceOf_eq.symm.trans hnonce)
  have hthere : ¬(s.clientOf a.call.caller).isNone = true := by
    rw [Bool.not_eq_true, Option.isNone_eq_false_iff]
    exact h.client
  unfold outcome verifyOver
  dsimp only
  rw [hask]
  unfold carryOut carryOutWith RemoteStore.reserveVia
  dsimp only
  rw [if_neg hthere, hcommand, hnonce]
  rfl

/-- Without a command the delivery is turned away, and a fault is not logged. -/
theorem turnsAway_of_not_issues (hnonce : a.nonce? = some nonce) (h : ∀ c, ¬a.Issues s c) :
    TurnsAway (a.outcome s).result ∧
      ∀ fault, (a.outcome s).result = .error fault → (a.outcome s).log = [] := by
  unfold outcome verifyOver
  dsimp only
  cases hplan : plan a.config (a.call.delivery a.config) a.call.now with
  | error fault => exact ⟨.inl ⟨fault, rfl⟩, fun _ _ => rfl⟩
  | ok p =>
    cases p with
    | reject reason detail =>
      exact ⟨.inr ⟨reason, reason_mem_early hplan, detail, rfl⟩, fun _ hfault => by cases hfault⟩
    | accept =>
      -- only a delivery without a nonce is accepted as it is
      obtain ⟨timestamp, signature, declared, hauth⟩ :=
        exists_authentic_of_plan hplan fun _ _ => by simp
      rw [hauth.plan_eq, planReservation_eq_accept_iff] at hplan
      cases hnonce.symm.trans hplan
    | reserve asked expires =>
      have hauth : a.call.IsAuthentic a.config := (of_plan_eq_reserve hplan).1
      unfold carryOut carryOutWith RemoteStore.reserveVia
      dsimp only
      by_cases hclient : (s.clientOf a.call.caller).isNone
      · rw [if_pos hclient]
        rw [ofReservation_of_raised asked rfl (RemoteStore.missingClient_ne_unavailable _)]
        exact ⟨.inl ⟨_, rfl⟩, fun _ _ => rfl⟩
      rw [if_neg hclient]
      cases hcommand : s.command asked expires a.call.now with
      | error e =>
        have hne : e ≠ .unavailable := fun he =>
          RemoteStore.command_ne_unavailable (he ▸ hcommand)
        dsimp only
        rw [ofReservation_of_raised asked rfl hne]
        exact ⟨.inl ⟨_, rfl⟩, fun _ _ => rfl⟩
      | ok c =>
        rw [Bool.not_eq_true, Option.isNone_eq_false_iff] at hclient
        exact absurd ⟨hauth, hclient, asked, expires, hplan, hcommand⟩ (h c)

theorem failsClosed_of_not_issues (hnonce : a.nonce? = some nonce) (h : ∀ c, ¬a.Issues s c) :
    a.FailsClosed s nonce (a.outcome s) := by
  obtain ⟨haway, hlog⟩ := turnsAway_of_not_issues hnonce h
  have hmeets : ¬a.MeetsOutage s := by
    rintro ⟨c, ⟨hsends, -⟩ | ⟨hissues, -⟩⟩
    · exact h c hsends.toIssues
    · exact h c hissues
  refine ⟨iff_of_false haway.ne_verified ?_, iff_of_false (haway.ne_unavailable none) hmeets,
    fun hmet => absurd hmet hmeets, ?_, ?_, hlog _⟩
  · rintro ⟨c, hsends, -⟩
    exact h c hsends.toIssues
  · exact fun c e hsends => absurd hsends.toIssues (h c)
  · exact fun c hissues => absurd hissues (h c)

/-- Without time the command does not reach the client: the store is unavailable to whoever awaits
it, and whoever is cancelled learns of that only. -/
theorem Issues.failsClosed_of_givesNoTime (h : a.Issues s c) (hnonce : a.nonce? = some nonce)
    (htime : s.givesNoTime a.call.caller = true) : a.FailsClosed s nonce (a.outcome s) := by
  have hsends : ∀ c, ¬a.Sends s c := by
    intro c hsends
    cases htime.symm.trans hsends.givesTime
  have hstored : ¬∃ c', a.Sends s c' ∧ a.reply s c' = .stored ∧ (a.outcome s).commands = [c'] := by
    rintro ⟨c', hc', -⟩
    exact hsends c' hc'
  have hmeets : a.MeetsOutage s ↔ a.call.caller = .awaiting := by
    constructor
    · rintro ⟨c', ⟨hc', -⟩ | ⟨-, hawaits, -⟩⟩
      · exact absurd hc' (hsends c')
      · exact hawaits
    · exact fun hawaits => ⟨c, .inr ⟨h, hawaits, hawaits ▸ htime⟩⟩
  rw [h.outcome_eq hnonce, if_pos htime] at hstored ⊢
  cases hcaller : a.call.caller with
  | blocking =>
    rw [hcaller] at htime
    cases htime
  | awaiting =>
    rw [hcaller] at hstored hmeets
    refine ⟨iff_of_false (by simp [ofReservation, RemoteStore.giveUp, rejected]) hstored,
      iff_of_true rfl (hmeets.2 rfl), fun _ => rfl, fun c e hc => absurd hc (hsends c), ?_, ?_⟩
    · rintro c - ⟨hcancelled, -⟩
      cases hcaller.symm.trans hcancelled
    · intro hresult
      cases hresult
  | cancelled =>
    rw [hcaller] at hstored hmeets htime
    have hnot : ¬a.MeetsOutage s := fun hmet => by cases hmeets.1 hmet
    exact ⟨iff_of_false (by simp [ofReservation, RemoteStore.giveUp]) hstored,
      iff_of_false (by simp [ofReservation, RemoteStore.giveUp]) hnot,
      fun hmet => absurd hmet hnot, fun c e hc => absurd hc (hsends c),
      fun _ _ _ => iff_of_true rfl (.inl htime), fun _ => rfl⟩

/-- The reply decides about a command that reaches the client. -/
theorem Sends.failsClosed (h : a.Sends s c) (hnonce : a.nonce? = some nonce) :
    a.FailsClosed s nonce (a.outcome s) := by
  have honly : ∀ c', a.Issues s c' → c' = c := fun c' hc' => hc'.unique h.toIssues
  have hmeets : a.MeetsOutage s ↔ (a.reply s c).IsOutage a.call.caller s.timeout := by
    constructor
    · rintro ⟨c', ⟨hc', houtage⟩ | ⟨-, hawaits, htime⟩⟩
      · exact honly c' hc'.toIssues ▸ houtage
      · rw [← hawaits, h.givesTime] at htime
        cases htime
    · exact fun houtage => ⟨c, .inl ⟨h, houtage⟩⟩
  rw [h.toIssues.outcome_eq hnonce, h.givesTime, if_neg Bool.false_ne_true]
  have hcancelled : (ofReservation nonce
      ⟨RemoteStore.settle a.call.caller s.timeout (a.reply s c),
        s.withServer (a.conduct s.server a.call.caller c).2,
        if a.reply s c = .silent then [] else [c],
        RemoteStore.logOf (RemoteStore.settle a.call.caller s.timeout (a.reply s c))⟩).result =
        .error (.store .cancelled) ↔ a.call.caller = .cancelled ∧ a.reply s c = .silent := by
    rw [result_ofReservation_eq_error_iff]
    simp [RemoteStore.settle_eq_cancelled_iff]
  refine ⟨?_, ?_, fun houtage => ?_, fun c' e hc' hraises => ?_, fun c' hc' hmet => ?_,
    fun hresult => ?_⟩
  · rw [result_ofReservation_eq_verified_iff, RemoteStore.settle_eq_ok_true_iff,
      commands_ofReservation]
    constructor
    · intro hstored
      refine ⟨c, h, hstored, if_neg ?_⟩
      rw [hstored]
      decide
    · rintro ⟨c', hc', hstored, -⟩
      exact honly c' hc'.toIssues ▸ hstored
  · rw [result_ofReservation_eq_unavailable_iff, RemoteStore.settle_eq_unavailable_iff, hmeets]
  · have hsettle := (hmeets.1 houtage).settle_eq
    rw [ofReservation_of_unavailable nonce hsettle]
    unfold rejected
    dsimp only
    rw [hsettle]
    rfl
  · obtain rfl : c' = c := honly c' hc'.toIssues
    have hsettle := hraises.settle_eq
    rw [ofReservation_of_raised nonce hsettle hraises.ne_unavailable]
    refine ⟨rfl, RemoteStore.logOf_of_ne ?_⟩
    rw [hsettle, ne_eq, Except.error.injEq]
    exact hraises.ne_unavailable
  · obtain rfl : c' = c := honly c' hc'
    have htime : s.givesNoTime .cancelled = false := hmet.1 ▸ h.givesTime
    rw [hcancelled, htime]
    simp [hmet.1]
  · have hsettle : RemoteStore.settle a.call.caller s.timeout (a.reply s c) = .error .cancelled :=
      RemoteStore.settle_eq_cancelled_iff.2 (hcancelled.1 hresult)
    rw [ofReservation_of_raised nonce hsettle (by simp)]
    exact RemoteStore.logOf_of_ne (by rw [hsettle]; simp)

/-- An attempt fails closed. -/
theorem failsClosed (a : Attempt) (s : RemoteStore) (hnonce : a.nonce? = some nonce) :
    a.FailsClosed s nonce (a.outcome s) := by
  by_cases hissues : ∃ c, a.Issues s c
  · obtain ⟨c, hc⟩ := hissues
    cases htime : s.givesNoTime a.call.caller with
    | true => exact hc.failsClosed_of_givesNoTime hnonce htime
    | false => exact Sends.failsClosed ⟨hc, htime⟩ hnonce
  · push Not at hissues
    exact failsClosed_of_not_issues hnonce hissues

/-- An attempt changes nothing of the store but the server behind it. -/
theorem store_outcome (a : Attempt) (s : RemoteStore) :
    (a.outcome s).store = s.withServer (a.outcome s).store.server := by
  unfold outcome verifyOver
  dsimp only
  cases plan a.config (a.call.delivery a.config) a.call.now with
  | error fault => rfl
  | ok p =>
    cases p with
    | reject reason detail => rfl
    | accept => rfl
    | reserve nonce expires =>
      unfold carryOut carryOutWith
      rw [store_ofReservation]
      exact RemoteStore.store_reserveVia ..

end Attempt

/-! ### Many attempts -/

variable {attempts : List Attempt} {a : Attempt} {k : ℕ} {nonce : String}

/-- What comes of attempts, one after another. -/
def series (start : RemoteStore) (attempts : List Attempt) : List (OutcomeOver RemoteStore) :=
  Sequence.results (fun s (a : Attempt) => a.outcome s) (·.store) start attempts

/-- The server that the attempt at an index finds. -/
def serverBefore (start : RemoteStore) (attempts : List Attempt) (k : ℕ) : Server :=
  (Sequence.before (fun s (a : Attempt) => a.outcome s) (·.store) start attempts k).server

/-- The attempt at an index finds the store as it was at first, but for the server. -/
theorem getElem?_series (start : RemoteStore) (ha : attempts[k]? = some a) :
    (series start attempts)[k]? =
      some (a.outcome (start.withServer (serverBefore start attempts k))) := by
  have hframe : Sequence.before (fun s (a : Attempt) => a.outcome s) (·.store) start attempts k =
      start.withServer (serverBefore start attempts k) := by
    unfold serverBefore
    refine Sequence.before_of_le (P := fun s => s = start.withServer s.server) _ _ (Nat.zero_le k)
      rfl fun i a _ _ _ hi => ?_
    rw [a.store_outcome, hi]
    rfl
  unfold series
  rw [Sequence.getElem?_results, ha, hframe]
  rfl

/-- Each of many attempts over one remote store with a nonce that counts fails closed, whatever the
clients do and have done before. -/
theorem series_failsClosed (start : RemoteStore) (ha : attempts[k]? = some a)
    (hnonce : a.nonce? = some nonce) :
    ∃ o, (series start attempts)[k]? = some o ∧
      a.FailsClosed (start.withServer (serverBefore start attempts k)) nonce o :=
  ⟨_, getElem?_series start ha, a.failsClosed _ hnonce⟩

/-- The sample delivery with a client that always gives this reply. -/
def sampleAttempt (caller : Caller) (reply : Reply) : Attempt where
  config := sampleConfig
  conduct := fun server _ _ => (reply, server)
  call := (sampleCall "n" [120, 10, 121] 5).through caller

/-- An error below the client, a wait without an end, and a key that is set. -/
def sampleAttempts : List Attempt :=
  [sampleAttempt .blocking (.failed "broken pipe"), sampleAttempt .awaiting .silent,
    sampleAttempt .blocking .stored]

/-- The sample attempts get as far as the client, whoever makes them. -/
theorem exists_sends_sampleAttempt (caller : Caller) (reply : Reply) (server : Server) :
    (sampleAttempt caller reply).nonce? = some "n" ∧
      ∃ c, (sampleAttempt caller reply).Sends (sampleShared.withServer server) c := by
  have hask : (sampleAttempt caller reply).call.Asks sampleConfig "n" (sampleMinute 15) :=
    sampleCall_asks_n (by decide)
  obtain ⟨ttl, hcommand⟩ := (sampleShared.withServer server).command_eq
    hask.isBlankText_nonce (hask.isAware_expires.trans hask.isAware_now.symm)
  have hclient : ((sampleShared.withServer server).clientOf caller).isSome := by
    cases caller <;> rfl
  have htime : (sampleShared.withServer server).givesNoTime caller = false := by
    cases caller <;> rfl
  exact ⟨hask.nonceOf_eq, _, ⟨(of_plan_eq_reserve hask).1, hclient, "n", _, hask, hcommand⟩, htime⟩

/-- The wait is ended by the timeout. -/
theorem sampleAttempts_failsClosed :
    sampleAttempts[1]? = some (sampleAttempt .awaiting .silent) ∧
      (sampleAttempt .awaiting .silent).nonce? = some "n" ∧
      ∃ o, (series sampleShared sampleAttempts)[1]? = some o ∧
        o.result = .ok (.rejected .storeUnavailable none) ∧
        o.log = [.storeUnavailable, .rejected .storeUnavailable (some "n")] := by
  have hsecond : sampleAttempts[1]? = some (sampleAttempt .awaiting .silent) := rfl
  obtain ⟨hnonce, c, hsends⟩ :=
    exists_sends_sampleAttempt .awaiting .silent (serverBefore sampleShared sampleAttempts 1)
  obtain ⟨o, ho, hclosed⟩ := series_failsClosed sampleShared hsecond hnonce
  have hmeets : (sampleAttempt .awaiting .silent).MeetsOutage
      (sampleShared.withServer (serverBefore sampleShared sampleAttempts 1)) :=
    ⟨c, .inl ⟨hsends, .silent rfl rfl⟩⟩
  exact ⟨hsecond, hnonce, o, ho, hclosed.unavailable_iff.2 hmeets, hclosed.log_of_outage hmeets⟩

/-- A caller that is cancelled in its limited wait is told that the delivery is verified, if the
reply is there. -/
theorem sampleCancelled_verified :
    ∃ c, (sampleAttempt .cancelled .stored).Sends sampleShared c ∧
      (sampleAttempt .cancelled .stored).IsCancelled sampleShared c ∧
      ((sampleAttempt .cancelled .stored).outcome sampleShared).result = .ok .verified := by
  obtain ⟨hnonce, c, hsends⟩ := exists_sends_sampleAttempt .cancelled .stored sampleShared.server
  have hsends : (sampleAttempt .cancelled .stored).Sends sampleShared c := hsends
  refine ⟨c, hsends, ⟨rfl, .inl rfl⟩, ?_⟩
  rw [hsends.toIssues.outcome_eq hnonce, hsends.givesTime]
  rfl

end Verifier

end WebhookAuth
