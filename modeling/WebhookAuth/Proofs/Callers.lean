import WebhookAuth.Proofs.Consumption

/-!
# Blocking and awaiting callers

A caller that blocks and one that awaits reach a store on two ways. They are treated alike by a
local store, and by a remote one that has both clients and a limit that leaves time to wait, as long
as its server behaves in one of the ways of `ServerMode.even`: then any calls of a course may change
their callers (`course_reroute`).
-/

namespace WebhookAuth

/-- The ways to behave in which a server gives the same answer to all callers. -/
def ServerMode.even : List ServerMode :=
  [.answering, .refusingConnections, .answeringLate, .answeringErrors, .breakingPipes]

namespace RemoteStore

/-- Both clients are there. -/
def HasClients (s : RemoteStore) : Prop := s.blockingClient.isSome ∧ s.awaitingClient.isSome

theorem HasClients.not_isNone_clientOf {s : RemoteStore} (h : s.HasClients) (caller : Caller) :
    ¬(s.clientOf caller).isNone = true := by
  have hsome : (s.clientOf caller).isSome := by
    cases caller with
    | blocking => exact h.1
    | awaiting => exact h.2
    | cancelled => exact h.2
  rw [Option.isNone_iff_eq_none, ← ne_eq, ← Option.isSome_iff_ne_none]
  exact hsome

/-- Both clients are there, and a limit on the time to wait, if any, leaves some. -/
def IsOpen (s : RemoteStore) : Prop :=
  s.HasClients ∧ ∀ timeout ∈ s.timeout, 0 < timeout.micros

namespace IsOpen

variable {s : RemoteStore}

theorem givesNoTime_eq (h : s.IsOpen) (caller : Caller) : s.givesNoTime caller = false := by
  unfold givesNoTime
  cases htimeout : s.timeout with
  | none => rw [Option.any_none, Bool.and_false]
  | some timeout =>
    have hpos := h.2 timeout htimeout
    rw [Option.any_some, decide_eq_false (not_le.2 hpos), Bool.and_false]

theorem answers (h : s.IsOpen) (hmode : s.server.mode = .answering) (caller : Caller) :
    s.Answers caller := by
  refine ⟨?_, h.givesNoTime_eq caller, .inl hmode⟩
  rw [Option.isSome_iff_ne_none, ne_eq, ← Option.isNone_iff_eq_none]
  exact h.1.not_isNone_clientOf caller

end IsOpen

/-- A server that behaves in one of the even ways replies to all callers alike, and its reply says
the same to them. -/
theorem settle_reply_eq {server : Server} (h : server.mode ∈ ServerMode.even)
    (timeout : Option Duration) (caller caller' : Caller) (c : SetCommand) :
    server.reply caller c = server.reply caller' c ∧
      settle caller timeout (server.reply caller c).1 =
        settle caller' timeout (server.reply caller c).1 := by
  unfold Server.reply
  cases hmode : server.mode with
  | answering =>
    refine ⟨rfl, ?_⟩
    dsimp only
    rcases setIfAbsent_cases server c with ⟨hset, -⟩ | ⟨hset, -⟩
    · rw [hset]
      rfl
    · rw [hset]
      rfl
  | refusingConnections | answeringLate | answeringErrors | breakingPipes => exact ⟨rfl, rfl⟩
  | timingOut | silent =>
    rw [hmode] at h
    exact absurd h (by decide)

theorem reserve_eq_reserve {s : RemoteStore} (hs : s.IsOpen)
    (hmode : s.server.mode ∈ ServerMode.even) (caller caller' : Caller) (nonce : String)
    (expires now : DateTime) :
    s.reserve caller nonce expires now = s.reserve caller' nonce expires now := by
  unfold reserve reserveVia
  rw [if_neg (hs.1.not_isNone_clientOf caller), if_neg (hs.1.not_isNone_clientOf caller'),
    hs.givesNoTime_eq, hs.givesNoTime_eq]
  cases s.command nonce expires now with
  | error e => rfl
  | ok c =>
    obtain ⟨hreply, hsettle⟩ := settle_reply_eq hmode s.timeout caller caller' c
    dsimp only
    rw [hsettle, hreply]
    rfl

end RemoteStore

namespace NonceStore

/-- The store treats blocking and awaiting callers alike. -/
def IsEven : NonceStore → Prop
  | memory _ => True
  | remote s => s.IsOpen ∧ s.server.mode ∈ ServerMode.even

theorem IsEven.reserve_eq {s : NonceStore} (h : s.IsEven) (caller caller' : Caller)
    (nonce : String) (expires now : DateTime) :
    s.reserve caller nonce expires now = s.reserve caller' nonce expires now := by
  cases s with
  | memory s => rfl
  | remote s =>
    unfold reserve
    dsimp only
    rw [s.reserve_eq_reserve h.1 h.2 caller caller']

end NonceStore

namespace Verifier

variable {store : NonceStore} {turn : Turn} {turns : List Turn}

/-- A call keeps the kind of its store and all of a remote store but the entries of its server. -/
theorem isEven_verify_iff (config : Config) (store : NonceStore) (call : Call) (mode : ServerMode) :
    ((verify config store call).store.inMode mode).IsEven ↔ (store.inMode mode).IsEven := by
  by_cases hask : ∃ nonce expires, call.Asks config nonce expires
  · obtain ⟨nonce, expires, hask⟩ := hask
    rw [hask.verify_eq, store_ofReservation]
    cases store with
    | memory s => exact Iff.rfl
    | remote s =>
      obtain ⟨entries, hstore⟩ := s.exists_store_reserve call.caller nonce expires call.now
      unfold NonceStore.reserve
      dsimp only
      rw [hstore]
      exact Iff.rfl
  · push Not at hask
    rw [store_verify_of_not_asks hask]

/-- The call with another caller. -/
def Call.through (call : Call) (caller : Caller) : Call := { call with caller }

/-- What comes of a call does not depend on its caller if the store treats callers alike. -/
theorem verify_through (h : store.IsEven) (config : Config) (call : Call) (caller : Caller) :
    verify config store (call.through caller) = verify config store call := by
  unfold verify verifyOver
  dsimp only
  show carryOut NonceStore.reserve store caller (call.delivery config).nonce call.now
      (plan config (call.delivery config) call.now) = _
  cases plan config (call.delivery config) call.now with
  | error e => rfl
  | ok p =>
    cases p with
    | reject reason detail => rfl
    | accept => rfl
    | reserve nonce expires =>
      unfold carryOut carryOutWith
      dsimp only
      rw [h.reserve_eq caller call.caller]

/-- The turns with other callers, as far as they are given. -/
def reroute : List Caller → List Turn → List Turn
  | caller :: callers, turn :: turns =>
    { turn with call := turn.call.through caller } :: reroute callers turns
  | _, turns => turns

/-- Over a local store, and over a remote one with both clients and time to wait whose server
behaves in one of the even ways at every call, the callers of a course can be exchanged at will:
all results, logs, commands and the stores left stay the same. -/
theorem course_reroute (store : NonceStore) (callers : List Caller) (turns : List Turn)
    (hstore : ∀ turn ∈ turns, (store.inMode turn.mode).IsEven) :
    course store (reroute callers turns) = course store turns := by
  induction turns generalizing store callers with
  | nil => cases callers <;> rfl
  | cons turn turns ih =>
    cases callers with
    | nil => rfl
    | cons caller callers =>
      rw [List.forall_mem_cons] at hstore
      have houtcome : Turn.outcome store { turn with call := turn.call.through caller } =
          turn.outcome store := verify_through hstore.1 turn.config turn.call caller
      have hlater : ∀ later ∈ turns, ((turn.outcome store).store.inMode later.mode).IsEven := by
        intro later hmem
        unfold Turn.outcome
        rw [isEven_verify_iff, NonceStore.inMode_inMode]
        exact hstore.2 later hmem
      rw [reroute, course_cons, course_cons, houtcome, ih _ callers hlater]

/-- A remote store with both clients, two seconds to wait and no keys. -/
def sampleShared : RemoteStore :=
  { sampleRemote with awaitingClient := some {}, timeout := some ⟨2000000, by decide, by decide⟩ }

theorem isOpen_sampleShared : sampleShared.IsOpen := ⟨⟨rfl, rfl⟩, by decide⟩

/-- The sample delivery in two outages of the server, and twice after them. -/
def sampleRecovery : List Turn :=
  [.refusingConnections, .breakingPipes, .answering, .answering].map fun mode =>
    ⟨sampleConfig, mode, sampleCall "n" [120, 10, 121] 5⟩

/-- All callers of the sample deliveries block; two of them might as well await the answer. -/
theorem sampleRecovery_reroute :
    (∀ turn ∈ sampleRecovery, ((NonceStore.remote sampleShared).inMode turn.mode).IsEven) ∧
      (course (.remote sampleShared)
          (reroute [.blocking, .awaiting, .awaiting] sampleRecovery)).map (·.result) =
        [.ok (.rejected .storeUnavailable none), .error (.store (.connection "broken pipe")),
          .ok .verified, .ok (.rejected .replayDetected none)] := by
  have hask : (sampleCall "n" [120, 10, 121] 5).Asks sampleConfig "n" (sampleMinute 15) :=
    sampleCall_asks_n (by decide)
  have hmodes : ∀ turn ∈ sampleRecovery, turn.mode ∈ ServerMode.even := by decide
  have heven : ∀ turn ∈ sampleRecovery,
      ((NonceStore.remote sampleShared).inMode turn.mode).IsEven :=
    fun turn hmem => ⟨isOpen_sampleShared, hmodes turn hmem⟩
  refine ⟨heven, ?_⟩
  rw [course_reroute _ _ _ heven]
  simp only [sampleRecovery, List.map_cons, List.map_nil, course_cons, course_nil, Turn.outcome,
    hask.verify_eq]
  rfl

end Verifier

end WebhookAuth
