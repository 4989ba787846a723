import WebhookAuth.Proofs.History

/-!
# Concurrent calls

Calls of one verifier that run at the same time, over one store. A call takes three steps: it reads
its reference time, makes the checks that need no store, and settles, with its reservation as one
step; in between the clock may go on and other calls may take steps. A list of moves is one
interleaving of these steps.

* `Traffic`, `Move`, `Traffic.move`, `Traffic.run`;
* `Traffic.settlements`: the calls that settle, in the order in which they do;
* `Traffic.inOrder_settlements`: every interleaving has the outcomes of a sequential run in that
  order, and leaves the store that this run leaves;
* `Traffic.mem_settlements_iff`, `Traffic.nodup_settlements`: each call that has settled did so
  once;
* `Traffic.serves_run`: a call keeps to the delivery that it arrived with.
-/

namespace WebhookAuth.Verifier

/-- A delivery that a verifier is called for, with its reference time if one is given. -/
structure Arrival where
  caller : Caller
  body : Bytes
  fields : Fields
  given : Option DateTime

/-- The call at a reference time. -/
def Arrival.callAt (a : Arrival) (now : DateTime) : Call := ⟨a.caller, a.body, a.fields, now⟩

/-- The delivery that arrives. -/
def Arrival.delivery (config : Config) (a : Arrival) : Delivery :=
  .ofFields config.names a.body a.fields

/-- How far a call has come. -/
inductive Progress where
  | arrived (a : Arrival)
  /-- The reference time is read. -/
  | dated (call : Call)
  /-- The checks that need no store are made. -/
  | checked (call : Call) (plan : Except Fault Plan)
  | settled (call : Call) (outcome : Outcome)

/-- A call that has come so far is that of an arrival, and its plan is its own. -/
def Progress.IsOf (config : Config) (a : Arrival) : Progress → Prop
  | .arrived b => b = a
  | .dated call => call = a.callAt call.now
  | .checked call p => call = a.callAt call.now ∧ p = plan config (call.delivery config) call.now
  | .settled call _ => call = a.callAt call.now

/-- Calls that run at the same time. -/
structure Traffic where
  clock : DateTime
  store : NonceStore
  calls : List Progress

/-- What happens next. -/
inductive Move where
  /-- The clock goes on to a time; it never goes back. -/
  | tick (t : DateTime)
  /-- The call at an index takes its next step. -/
  | advance (i : ℕ)

/-- A call that settles, with its index. -/
structure Settlement where
  index : ℕ
  call : Call
  outcome : Outcome

/-- The nonce that counts for the call. -/
def Settlement.nonce? (config : Config) (x : Settlement) : Option String :=
  nonceOf config (x.call.delivery config)

/-- The call is verified with this nonce. -/
def Settlement.Uses (config : Config) (x : Settlement) (nonce : String) : Prop :=
  x.outcome.result = .ok .verified ∧ x.nonce? config = some nonce

namespace Traffic

variable {config : Config} {s : Traffic} {m : Move} {moves : List Move} {i j : ℕ} {call : Call}
  {outcome : Outcome} {x : Settlement} {arrivals : List Arrival} {clock : DateTime}
  {store : NonceStore}

/-- Calls that have just arrived. -/
def start (clock : DateTime) (store : NonceStore) (arrivals : List Arrival) : Traffic :=
  ⟨clock, store, arrivals.map .arrived⟩

/-- What comes of a call whose checks have led to a plan. -/
def settle (config : Config) (store : NonceStore) (call : Call) (plan : Except Fault Plan) :
    Outcome :=
  carryOut NonceStore.reserve store call.caller (call.delivery config).nonce call.now plan

/-- One move. -/
def move (config : Config) (s : Traffic) : Move → Traffic
  | .tick t => if s.clock.instant ≤ t.instant then { s with clock := t } else s
  | .advance i =>
    match s.calls[i]? with
    | some (.arrived a) =>
      { s with calls := s.calls.set i (.dated (a.callAt (referenceTime s.clock a.given))) }
    | some (.dated call) =>
      { s with
        calls := s.calls.set i (.checked call (plan config (call.delivery config) call.now)) }
    | some (.checked call plan) =>
      { s with
        store := (settle config s.store call plan).store
        calls := s.calls.set i (.settled call (settle config s.store call plan)) }
    | some (.settled _ _) => s
    | none => s

/-- The call that settles in a move, if one does. -/
def settlement? (config : Config) (s : Traffic) : Move → Option Settlement
  | .tick _ => none
  | .advance i =>
    match s.calls[i]? with
    | some (.checked call plan) => some ⟨i, call, settle config s.store call plan⟩
    | _ => none

/-- One interleaving. -/
def run (config : Config) (s : Traffic) (moves : List Move) : Traffic :=
  moves.foldl (move config) s

/-- The calls that settle in an interleaving, in their order. -/
def settlements (config : Config) : Traffic → List Move → List Settlement
  | _, [] => []
  | s, m :: moves => (s.settlement? config m).toList ++ settlements config (s.move config m) moves

@[simp] theorem run_nil (config : Config) (s : Traffic) : s.run config [] = s := rfl

@[simp] theorem run_cons (config : Config) (s : Traffic) (m : Move) (moves : List Move) :
    s.run config (m :: moves) = (s.move config m).run config moves := rfl

/-- What a move does: the clock goes on at most, or a call takes one of its three steps. -/
theorem move_cases (config : Config) (s : Traffic) (m : Move) :
    (s.settlement? config m = none ∧ ∃ clock, s.move config m = { s with clock }) ∨
    (s.settlement? config m = none ∧ ∃ i a, s.calls[i]? = some (.arrived a) ∧
      s.move config m =
        { s with calls := s.calls.set i (.dated (a.callAt (referenceTime s.clock a.given))) }) ∨
    (s.settlement? config m = none ∧ ∃ i call, s.calls[i]? = some (.dated call) ∧
      s.move config m =
        { s with
          calls := s.calls.set i (.checked call (plan config (call.delivery config) call.now)) }) ∨
    (∃ i call plan, s.calls[i]? = some (.checked call plan) ∧
      s.settlement? config m = some ⟨i, call, settle config s.store call plan⟩ ∧
      s.move config m =
        { s with
          store := (settle config s.store call plan).store
          calls := s.calls.set i (.settled call (settle config s.store call plan)) }) := by
  cases m with
  | tick t =>
    dsimp only [move]
    split_ifs
    · exact .inl ⟨rfl, t, rfl⟩
    · exact .inl ⟨rfl, s.clock, rfl⟩
  | advance i =>
    dsimp only [move, settlement?]
    cases hi : s.calls[i]? with
    | none => exact .inl ⟨rfl, s.clock, rfl⟩
    | some p =>
      cases p with
      | arrived a => exact .inr (.inl ⟨rfl, i, a, hi, rfl⟩)
      | dated call => exact .inr (.inr (.inl ⟨rfl, i, call, hi, rfl⟩))
      | checked call plan => exact .inr (.inr (.inr ⟨i, call, plan, hi, rfl, rfl⟩))
      | settled call outcome => exact .inl ⟨rfl, s.clock, rfl⟩

theorem getElem?_set_of_some {p q : Progress} (hj : s.calls[j]? = some p) (i : ℕ) :
    (s.calls.set j q)[i]? = if j = i then some q else s.calls[i]? := by
  have hlt := (List.getElem?_eq_some_iff.1 hj).1
  rw [List.getElem?_set, if_pos hlt]

/-- Only a settlement changes the store. -/
theorem store_move (config : Config) (s : Traffic) (m : Move) :
    (s.move config m).store = (s.settlement? config m).elim s.store (·.outcome.store) := by
  rcases s.move_cases config m with ⟨hx, clock, hmove⟩ | ⟨hx, i, a, -, hmove⟩ |
    ⟨hx, i, call, -, hmove⟩ | ⟨i, call, plan, -, hx, hmove⟩
  all_goals
    rw [hx, hmove]
    rfl

@[simp] theorem length_calls_start (clock : DateTime) (store : NonceStore)
    (arrivals : List Arrival) : (start clock store arrivals).calls.length = arrivals.length :=
  List.length_map _

@[simp] theorem length_calls_run (config : Config) (s : Traffic) (moves : List Move) :
    (s.run config moves).calls.length = s.calls.length := by
  induction moves generalizing s with
  | nil => rfl
  | cons m moves ih =>
    rw [run_cons, ih]
    rcases s.move_cases config m with ⟨-, clock, hmove⟩ | ⟨-, i, a, -, hmove⟩ |
      ⟨-, i, call, -, hmove⟩ | ⟨i, call, plan, -, -, hmove⟩
    · rw [hmove]
    all_goals rw [hmove, List.length_set]

/-- The call that settles had been checked. -/
theorem exists_checked_of_settlement? (h : s.settlement? config m = some x) :
    ∃ plan, s.calls[x.index]? = some (.checked x.call plan) ∧
      x.outcome = settle config s.store x.call plan := by
  rcases s.move_cases config m with ⟨hx, -⟩ | ⟨hx, -⟩ | ⟨hx, -⟩ | ⟨i, call, plan, hi, hx, -⟩
  all_goals cases hx.symm.trans h
  exact ⟨plan, hi, rfl⟩

/-! ### A call settles once -/

/-- After a move a call is settled if it was before or settles in the move. -/
theorem settled_move_iff :
    (s.move config m).calls[i]? = some (.settled call outcome) ↔
      s.calls[i]? = some (.settled call outcome) ∨
        s.settlement? config m = some ⟨i, call, outcome⟩ := by
  rcases s.move_cases config m with ⟨hx, clock, hmove⟩ | ⟨hx, j, a, hj, hmove⟩ |
    ⟨hx, j, c, hj, hmove⟩ | ⟨j, c, plan, hj, hx, hmove⟩
  · simp [hmove, hx]
  -- the call that takes a step was not settled before
  all_goals
    rw [hmove, hx, getElem?_set_of_some hj]
    by_cases hij : j = i
    · subst hij
      simp [hj]
    · simp [hij]

theorem settled_run_iff :
    (s.run config moves).calls[i]? = some (.settled call outcome) ↔
      s.calls[i]? = some (.settled call outcome) ∨
        ⟨i, call, outcome⟩ ∈ settlements config s moves := by
  induction moves generalizing s with
  | nil => simp [settlements]
  | cons m moves ih =>
    rw [run_cons, ih, settled_move_iff, settlements, List.mem_append, Option.mem_toList, or_assoc]

/-- The calls that settle are those that have settled in the end. -/
theorem mem_settlements_iff :
    x ∈ settlements config (start clock store arrivals) moves ↔
      ((start clock store arrivals).run config moves).calls[x.index]? =
        some (.settled x.call x.outcome) := by
  rw [settled_run_iff, or_iff_right]
  simp [start]

/-- A call that settles was not settled before. -/
theorem not_settled_of_mem (hx : x ∈ settlements config s moves) :
    s.calls[x.index]? ≠ some (.settled call outcome) := by
  induction moves generalizing s with
  | nil => cases hx
  | cons m moves ih =>
    intro hsettled
    rw [settlements, List.mem_append, Option.mem_toList] at hx
    rcases hx with hx | hx
    · obtain ⟨plan, hchecked, -⟩ := exists_checked_of_settlement? hx
      rw [hchecked] at hsettled
      cases hsettled
    · exact ih hx (settled_move_iff.2 (.inl hsettled))

theorem nodup_settlements (config : Config) (s : Traffic) (moves : List Move) :
    ((settlements config s moves).map (·.index)).Nodup := by
  induction moves generalizing s with
  | nil => exact .nil
  | cons m moves ih =>
    rw [settlements]
    cases hx : s.settlement? config m with
    | none => exact ih _
    | some x =>
      have hsettled : (s.move config m).calls[x.index]? = some (.settled x.call x.outcome) :=
        settled_move_iff.2 (.inr hx)
      refine List.nodup_cons.2 ⟨?_, ih _⟩
      intro hmem
      obtain ⟨y, hy, hyx⟩ := List.mem_map.1 hmem
      have hyx : y.index = x.index := hyx
      exact not_settled_of_mem hy (hyx ▸ hsettled)

/-! ### A call keeps to its delivery -/

/-- The calls are those of these arrivals. -/
def Serves (config : Config) (arrivals : List Arrival) (s : Traffic) : Prop :=
  ∀ (i : ℕ) p, s.calls[i]? = some p → ∃ a, arrivals[i]? = some a ∧ p.IsOf config a

theorem serves_start (config : Config) (clock : DateTime) (store : NonceStore)
    (arrivals : List Arrival) : (start clock store arrivals).Serves config arrivals := by
  intro i p h
  rw [start, List.getElem?_map, Option.map_eq_some_iff] at h
  obtain ⟨a, ha, rfl⟩ := h
  exact ⟨a, ha, rfl⟩

theorem Serves.move (h : s.Serves config arrivals) (m : Move) :
    (s.move config m).Serves config arrivals := by
  intro i p hi
  rcases s.move_cases config m with ⟨-, clock, hmove⟩ | ⟨-, j, a, hj, hmove⟩ |
    ⟨-, j, call, hj, hmove⟩ | ⟨j, call, plan, hj, -, hmove⟩
  · rw [hmove] at hi
    exact h i p hi
  all_goals
    rw [hmove, getElem?_set_of_some hj] at hi
    split_ifs at hi with hij
    swap
    · exact h i p hi
    cases hi
    obtain ⟨b, hb, hof⟩ := h j _ hj
    refine ⟨b, hij ▸ hb, ?_⟩
  · cases hof
    rfl
  · exact ⟨hof, rfl⟩
  · exact hof.1

theorem serves_run (config : Config) (clock : DateTime) (store : NonceStore)
    (arrivals : List Arrival) (moves : List Move) :
    ((start clock store arrivals).run config moves).Serves config arrivals := by
  have hrun (s : Traffic) (hs : s.Serves config arrivals) :
      (s.run config moves).Serves config arrivals := by
    induction moves generalizing s with
    | nil => exact hs
    | cons m moves ih => exact ih _ (hs.move m)
  exact hrun _ (serves_start config clock store arrivals)

/-! ### The order of the settlements -/

/-- The calls, one after another from one store to the other, have these outcomes. -/
def InOrder (config : Config) (before : NonceStore) (l : List Settlement) (after : NonceStore) :
    Prop :=
  Verifier.run config before (l.map (·.call)) = (l.map (·.outcome), after)

variable {before after : NonceStore} {l l' : List Settlement}

theorem inOrder_nil_iff : InOrder config before [] after ↔ before = after := by
  simp [InOrder]

theorem inOrder_cons_iff :
    InOrder config before (x :: l) after ↔
      verify config before x.call = x.outcome ∧ InOrder config x.outcome.store l after := by
  unfold InOrder
  rw [List.map_cons, List.map_cons, Verifier.run_cons, Prod.ext_iff, Prod.ext_iff,
    List.cons.injEq, and_assoc]
  refine and_congr_right fun h => ?_
  rw [h]

theorem inOrder_append_iff :
    InOrder config before (l ++ l') after ↔
      ∃ between, InOrder config before l between ∧ InOrder config between l' after := by
  induction l generalizing before with
  | nil => simp [inOrder_nil_iff]
  | cons x l ih =>
    simp only [List.cons_append, inOrder_cons_iff, ih, and_assoc, exists_and_left]

theorem inOrder_settlements_of_serves (h : s.Serves config arrivals) (moves : List Move) :
    InOrder config s.store (settlements config s moves) (s.run config moves).store := by
  induction moves generalizing s with
  | nil => rfl
  | cons m moves ih =>
    have hrest := ih (h.move m)
    rw [store_move] at hrest
    rw [settlements, run_cons]
    cases hx : s.settlement? config m with
    | none =>
      rw [hx] at hrest
      exact hrest
    | some x =>
      -- the plan is that of the call, so settling is what the sequential run does next
      obtain ⟨plan, hchecked, houtcome⟩ := exists_checked_of_settlement? hx
      obtain ⟨a, -, -, hplan⟩ := h _ _ hchecked
      rw [hx, Option.elim_some] at hrest
      rw [Option.toList_some, List.singleton_append, inOrder_cons_iff]
      refine ⟨?_, hrest⟩
      rw [houtcome, hplan]
      rfl

/-- Every interleaving has the outcomes of the sequential run of its calls in the order in which
they settle, and leaves the store of that run. -/
theorem inOrder_settlements (config : Config) (clock : DateTime) (store : NonceStore)
    (arrivals : List Arrival) (moves : List Move) :
    InOrder config store (settlements config (start clock store arrivals) moves)
      ((start clock store arrivals).run config moves).store :=
  inOrder_settlements_of_serves (serves_start config clock store arrivals) moves

end Traffic

end WebhookAuth.Verifier
