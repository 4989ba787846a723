import WebhookAuth.Proofs.Authenticity
import WebhookAuth.Proofs.History
import WebhookAuth.Proofs.Sequence

/-!
# Calls that are not authentic

Several verifiers may share a store, and the server behind it may change its behaviour from call to
call: a course is a sequence of such calls. A call that is not authentic is settled by its checks
alone. It does not reach the store, and taking such calls out of a course leaves the outcomes of all
others as they are (`course_unmarked`).
-/

namespace WebhookAuth

/-- The reasons that the checks before the reservation give. -/
def Reason.early : List Reason :=
  [.missingHeader, .invalidTimestampFormat, .timestampOutOfWindow, .signatureMismatch]

/-- The store with its server behaving in a given way; a local store has none. -/
def NonceStore.inMode : NonceStore → ServerMode → NonceStore
  | memory s, _ => memory s
  | remote s, mode => remote { s with server := { s.server with mode } }

@[simp] theorem NonceStore.inMode_inMode (s : NonceStore) (mode mode' : ServerMode) :
    (s.inMode mode).inMode mode' = s.inMode mode' := by
  cases s with
  | memory s => rfl
  | remote s => rfl

namespace Verifier

variable {config : Config} {d : Delivery} {now : DateTime} {call : Call} {store : NonceStore}

/-! ### One call -/

/-- The delivery passes every check that needs no store. -/
def Call.IsAuthentic (config : Config) (call : Call) : Prop :=
  ∃ timestamp signature declared,
    Authentic config (call.delivery config) call.now timestamp signature declared

theorem not_isAuthentic_of_reject {reason : Reason} {detail : Option String}
    (h : plan config (call.delivery config) call.now = .ok (.reject reason detail)) :
    ¬call.IsAuthentic config := by
  rintro ⟨timestamp, signature, declared, hauth⟩
  rw [hauth.plan_eq] at h
  unfold planReservation at h
  split at h
  · cases h
  · split at h <;> cases h

/-- A rejection before the reservation has a reason of its own. -/
theorem reason_mem_early {reason : Reason} {detail : Option String}
    (h : plan config d now = .ok (.reject reason detail)) : reason ∈ Reason.early := by
  have of_eq {r : Reason} {t : Option String} (hr : r ∈ Reason.early)
      (heq : (.ok (.reject r t) : Except Fault Plan) = .ok (.reject reason detail)) :
      reason ∈ Reason.early := by
    cases heq
    exact hr
  -- every way out of the checks but the last names its own reason
  rcases exists_hasHeaders_or_missing config d with ⟨timestamp, signature, hheaders⟩ |
    ⟨name, hmissing⟩
  swap
  · rw [plan, hmissing] at h
    exact of_eq (by decide) h
  rw [hheaders.plan_eq, planDated] at h
  rcases planWindow_cases config now (Timestamp.read timestamp) with
    ⟨declared, -, -, hnext⟩ | ⟨early, hearly, hreject⟩ | ⟨fault, hfault, -⟩
  · rw [hnext] at h
    unfold planSigned at h
    split at h
    · exact of_eq (by decide) h
    · exact of_eq (by decide) h
    unfold planReservation at h
    split at h
    · cases h
    · split at h <;> cases h
  · have hsubset : [.invalidTimestampFormat, .timestampOutOfWindow] ⊆ Reason.early := by decide
    rw [hreject] at h
    exact of_eq (hsubset hearly) h
  · rw [hfault] at h
    cases h

/-- The result turns the delivery away before its nonce is looked at: by a rejection for one of the
early reasons, or by a fault. -/
def TurnsAway (result : Except Fault Verdict) : Prop :=
  (∃ fault, result = .error fault) ∨
    ∃ reason ∈ Reason.early, ∃ detail, result = .ok (.rejected reason detail)

/-- A call that is not authentic has one result and one log over every kind of store, however that
store reserves nonces; it leaves the store as it is and sends no command. -/
theorem exists_verifyOver_eq (h : ¬call.IsAuthentic config) :
    ∃ result log, TurnsAway result ∧
      ∀ (Store : Type) (reserve : Reserver Store) (store : Store),
        verifyOver reserve config store call = ⟨result, store, [], log⟩ := by
  unfold verifyOver
  dsimp only
  cases hplan : plan config (call.delivery config) call.now with
  | error fault => exact ⟨.error fault, [], .inl ⟨fault, rfl⟩, fun _ _ _ => rfl⟩
  | ok p =>
    cases p with
    | reject reason detail =>
      exact ⟨_, _, .inr ⟨reason, reason_mem_early hplan, detail, rfl⟩, fun _ _ _ => rfl⟩
    | accept => exact absurd (exists_authentic_of_plan hplan fun _ _ => by simp) h
    | reserve nonce expires => exact absurd (exists_authentic_of_plan hplan fun _ _ => by simp) h

/-! ### Many calls -/

/-- A call of one of the verifiers that share a store. -/
structure Turn where
  config : Config
  /-- How the server behind a remote store behaves at the call. -/
  mode : ServerMode
  call : Call

/-- The delivery passes every check that needs no store. -/
def Turn.IsAuthentic (turn : Turn) : Prop := turn.call.IsAuthentic turn.config

/-- What comes of a call of one of the verifiers. -/
def Turn.outcome (store : NonceStore) (turn : Turn) : Outcome :=
  verify turn.config (store.inMode turn.mode) turn.call

/-- What comes of the calls, one after another. -/
def course (store : NonceStore) (turns : List Turn) : List Outcome :=
  Sequence.results (fun store (turn : Turn) => turn.outcome store) (·.store) store turns

@[simp] theorem course_nil (store : NonceStore) : course store [] = [] := rfl

theorem course_cons (store : NonceStore) (turn : Turn) (turns : List Turn) :
    course store (turn :: turns) = turn.outcome store :: course (turn.outcome store).store turns :=
  rfl

/-- A course does not depend on how the server behaved before it. -/
theorem course_inMode (store : NonceStore) (mode : ServerMode) (turns : List Turn) :
    course (store.inMode mode) turns = course store turns := by
  cases turns with
  | nil => rfl
  | cons turn turns => simp only [course_cons, Turn.outcome, NonceStore.inMode_inMode]

theorem Turn.store_outcome {turn : Turn} (h : ¬turn.IsAuthentic) :
    (turn.outcome store).store = store.inMode turn.mode := by
  obtain ⟨result, log, -, hover⟩ := exists_verifyOver_eq h
  rw [outcome, verify, hover]

section Marks

variable {α : Type}

/-- The members with a mark. -/
def marked : List Bool → List α → List α
  | true :: marks, a :: l => a :: marked marks l
  | false :: marks, _ :: l => marked marks l
  | _, _ => []

/-- The members without a mark. -/
def unmarked : List Bool → List α → List α
  | true :: marks, _ :: l => unmarked marks l
  | false :: marks, a :: l => a :: unmarked marks l
  | [], l => l
  | _, [] => []

@[simp] theorem unmarked_nil (marks : List Bool) : unmarked marks ([] : List α) = [] := by
  cases marks with
  | nil => rfl
  | cons mark marks => cases mark <;> rfl

end Marks

/-- A call that is not authentic has one result and one log over every kind of store, leaves the
store as it is and makes no use of it. Hence any such calls can be taken out of a course: all other
calls keep their results, their logs and the stores they leave. -/
theorem course_unmarked (store : NonceStore) (marks : List Bool) (turns : List Turn)
    (hmarked : ∀ turn ∈ marked marks turns, ¬turn.IsAuthentic) :
    (∀ turn : Turn, ¬turn.IsAuthentic → ∃ result log, TurnsAway result ∧
      ∀ (Store : Type) (reserve : Reserver Store) (store : Store),
        verifyOver reserve turn.config store turn.call = ⟨result, store, [], log⟩) ∧
    course store (unmarked marks turns) = unmarked marks (course store turns) := by
  refine ⟨fun turn h => exists_verifyOver_eq h, ?_⟩
  induction marks generalizing store turns with
  | nil => rfl
  | cons mark marks ih =>
    cases turns with
    | nil => simp
    | cons turn turns =>
      cases mark with
      | true =>
        -- the call leaves the store as it found it, up to the way its server behaves
        have hturn := hmarked turn List.mem_cons_self
        have hrest := ih store turns fun t ht => hmarked t (List.mem_cons_of_mem _ ht)
        calc course store (unmarked marks turns)
            = unmarked marks (course store turns) := hrest
          _ = unmarked marks (course (turn.outcome store).store turns) := by
            rw [Turn.store_outcome hturn, course_inMode]
      | false =>
        have hrest := ih (turn.outcome store).store turns hmarked
        exact congrArg (turn.outcome store :: ·) hrest

/-- A turn of the sample verifier. -/
def sampleTurn (call : Call) : Turn := ⟨sampleConfig, .answering, call⟩

theorem sampleForgery_rejected :
    ¬(sampleTurn (sampleCall "n" [122] 5)).IsAuthentic := by
  have hplan : plan sampleConfig ((sampleCall "n" [122] 5).delivery sampleConfig)
      (sampleCall "n" [122] 5).now = .ok (.reject .signatureMismatch none) := by
    decide +kernel
  exact not_isAuthentic_of_reject hplan

/-- The sample delivery has the outcome after a forgery with its nonce that it has without. -/
theorem course_unmarked_sampleForgery :
    ¬(sampleTurn (sampleCall "n" [122] 5)).IsAuthentic ∧
      course (.memory .empty) [sampleTurn (sampleCall "n" [120, 10, 121] 6)] =
        unmarked [true] (course (.memory .empty) [sampleTurn (sampleCall "n" [122] 5),
          sampleTurn (sampleCall "n" [120, 10, 121] 6)]) := by
  have hmarked : ∀ turn ∈ marked [true] [sampleTurn (sampleCall "n" [122] 5),
      sampleTurn (sampleCall "n" [120, 10, 121] 6)], ¬turn.IsAuthentic := by
    intro turn hturn
    rw [show turn = sampleTurn (sampleCall "n" [122] 5) by simpa [marked] using hturn]
    exact sampleForgery_rejected
  exact ⟨sampleForgery_rejected, (course_unmarked _ _ _ hmarked).2⟩

end Verifier

end WebhookAuth
