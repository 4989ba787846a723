import Mathlib.Data.Set.Card
import WebhookAuth.Proofs.Course
import WebhookAuth.Proofs.Sequence

/-!
# The ledger of a local store

A local store sweeps out what is over whenever it is accessed. Its ledger keeps every reservation
that it has granted, in their order, for good. As long as reference times do not go back, the store
has exactly the reservations of the ledger that are not over (`Mirrors`), each access keeps it so
(`Mirrors.perform`), and all answers can be told from the ledger (`accesses_tell_ledger`): what the
sweeps have removed, and when, makes no difference to them.
-/

namespace WebhookAuth.MemoryStore

open Verifier (marked unmarked)

/-- Something that a local store is asked for, while its clock shows some time. -/
inductive Access where
  /-- To reserve a nonce until a time; the reference time is the clock's unless one is given. -/
  | reserve (nonce : String) (expires : DateTime) (given : Option DateTime) (clock : DateTime)
  /-- To count the reservations that are not over. -/
  | size (clock : DateTime)

/-- What a local store answers. -/
inductive Answer where
  | reserved (granted : Except TimeError Bool)
  | counted (count : Except TimeError ℕ)
  deriving DecidableEq

namespace Access

/-- The reference time. -/
def now : Access → DateTime
  | reserve _ _ given clock => given.getD clock
  | size clock => clock

/-- Do the times of the access state their offset? -/
def isAware : Access → Bool
  | reserve _ expires given clock => expires.isAware && (given.getD clock).isAware
  | size clock => clock.isAware

/-- Does the access only count? -/
def isSize : Access → Bool
  | reserve .. => false
  | size _ => true

/-- The reservation that an access makes with this answer, if any. -/
def grant? : Access → Answer → Option NonceRecord
  | reserve nonce expires _ _, .reserved (.ok true) => some ⟨nonce, expires⟩
  | _, _ => none

theorem isAware_now {a : Access} (h : a.isAware = true) : a.now.isAware = true := by
  cases a with
  | reserve nonce expires given clock => exact (Bool.and_eq_true_iff.1 h).2
  | size clock => exact h

end Access

/-- The answer to an access, and the store that it leaves. -/
def perform (s : MemoryStore) (a : Access) : Answer × MemoryStore :=
  match a with
  | .reserve nonce expires _ _ => (s.reserve nonce expires a.now).map .reserved id
  | .size _ => (s.size a.now).map .counted id

variable {s s' : MemoryStore} {ledger : List NonceRecord} {now later : DateTime} {a : Access}
  {nonce : String} {expires : DateTime} {accesses : List Access} {k : ℕ}

/-! ### Sweeping -/

theorem eq_of_records_eq (h : s.records = s'.records) : s = s' := by
  cases s
  cases s'
  cases h
  rfl

theorem allAware_live (hs : s.AllAware) : (s.live now).AllAware :=
  fun r hr => hs r (mem_records_live.1 hr).1

/-- A sweep at an earlier time does not show after one at a later time. -/
theorem live_live (h : now.instant ≤ later.instant) : (s.live now).live later = s.live later := by
  apply eq_of_records_eq
  simp only [live, records_filter, List.filter_filter]
  refine List.filter_congr fun r _ => ?_
  by_cases hlater : later.instant < r.expires.instant
  · have hnow : now.instant < r.expires.instant := by omega
    simp [hlater, hnow]
  · simp [hlater]

theorem size_of_allAware (hs : s.AllAware) (hnow : now.isAware = true) :
    s.size now = (.ok (s.live now).records.length, s.live now) := by
  unfold size
  rw [sweep_of_allAware hs hnow]

/-- An access finds no difference between a store and the swept one. -/
theorem perform_live (hs : s.AllAware) (ha : a.isAware = true) :
    (s.live a.now).perform a = s.perform a := by
  have hsweep : (s.live a.now).sweep a.now = s.sweep a.now := by
    rw [sweep_of_allAware hs (Access.isAware_now ha),
      sweep_of_allAware (allAware_live hs) (Access.isAware_now ha), live_live le_rfl]
  cases a with
  | reserve nonce expires given clock =>
    unfold perform reserve
    dsimp only
    rw [hsweep, sweep_of_allAware hs (Access.isAware_now ha)]
  | size clock =>
    unfold perform size
    dsimp only
    rw [hsweep, sweep_of_allAware hs (Access.isAware_now ha)]

theorem perform_of_isSize (hs : s.AllAware) (ha : a.isAware = true) (hsize : a.isSize = true) :
    s.perform a = (.counted (.ok (s.live a.now).records.length), s.live a.now) := by
  cases a with
  | reserve nonce expires given clock => cases hsize
  | size clock =>
    unfold perform
    dsimp only
    rw [size_of_allAware hs (Access.isAware_now ha)]
    rfl

/-- An access adds a record to the swept store for the reservation that it makes, if any. -/
theorem records_perform (hs : s.AllAware) (ha : a.isAware = true) :
    (s.perform a).2.records =
      (s.live a.now).records ++ (a.grant? (s.perform a).1).toList := by
  cases a with
  | reserve nonce expires given clock =>
    obtain ⟨hexpires, hnow⟩ := Bool.and_eq_true_iff.1 ha
    unfold perform
    dsimp only [Access.now]
    rw [reserve_of_allAware hs hexpires hnow]
    split_ifs
    · rfl
    · exact (List.append_nil _).symm
  | size clock =>
    rw [perform_of_isSize hs ha rfl]
    exact (List.append_nil _).symm

/-- A reservation that is made is not over, and replaces none that is not. -/
theorem of_grant? {r : NonceRecord} (hs : s.AllAware) (ha : a.isAware = true)
    (hr : a.grant? (s.perform a).1 = some r) :
    r.expires.isAware = true ∧ a.now.instant < r.expires.instant ∧ ¬s.Holds r.nonce a.now := by
  cases a with
  | reserve nonce expires given clock =>
    obtain ⟨hexpires, hnow⟩ := Bool.and_eq_true_iff.1 ha
    unfold perform at hr
    dsimp only [Access.now, Prod.map] at hr
    rw [reserve_fst hs hexpires hnow] at hr
    by_cases hfree : (given.getD clock).instant < expires.instant ∧
        ¬s.Holds nonce (given.getD clock)
    · rw [decide_eq_true hfree] at hr
      cases hr
      exact ⟨hexpires, hfree⟩
    · rw [decide_eq_false hfree] at hr
      cases hr
  | size clock => cases hr

theorem allAware_perform (hs : s.AllAware) (ha : a.isAware = true) : (s.perform a).2.AllAware := by
  intro r hr
  rw [records_perform hs ha, List.mem_append, Option.mem_toList] at hr
  rcases hr with hold | hgrant
  · exact allAware_live hs r hold
  · exact (of_grant? hs ha hgrant).1

/-! ### The ledger beside the store -/

/-- The store has those reservations of a ledger that are not over, and of several reservations of
one nonce in the ledger all but the last are over. -/
structure Mirrors (s : MemoryStore) (ledger : List NonceRecord) (now : DateTime) : Prop where
  allAware : s.AllAware
  records_live : (s.live now).records = ledger.filter fun r => now.instant < r.expires.instant
  over_of_again : ledger.Pairwise fun r r' =>
    r.nonce = r'.nonce → r.expires.instant ≤ now.instant

/-- The last reservation of a nonce in a ledger. -/
def last? (ledger : List NonceRecord) (nonce : String) : Option NonceRecord :=
  (ledger.filter (·.nonce = nonce)).getLast?

/-- Where only the last member of a list can pass a test, that member is what the test leaves. -/
theorem filter_eq_getLast? {p : NonceRecord → Bool}
    (h : ledger.Pairwise fun r _ => ¬p r = true) :
    ledger.filter p = (ledger.getLast?.filter p).toList := by
  rcases List.eq_nil_or_concat ledger with rfl | ⟨front, r, rfl⟩
  · rfl
  · rw [List.concat_eq_append] at h ⊢
    have hfront : front.filter p = [] := by
      rw [List.filter_eq_nil_iff]
      exact fun r' hr' => (List.pairwise_append.1 h).2.2 r' hr' r (List.mem_singleton_self r)
    rw [List.filter_append, hfront, List.getLast?_append, List.nil_append]
    by_cases hr : p r = true <;> simp [Option.filter, hr]

theorem mirrors_empty (now : DateTime) : empty.Mirrors [] now :=
  ⟨allAware_empty, rfl, .nil⟩

namespace Mirrors

theorem holds_iff (h : s.Mirrors ledger now) :
    s.Holds nonce now ↔ ∃ r ∈ ledger, r.nonce = nonce ∧ now.instant < r.expires.instant := by
  rw [← mem_nonces_live_iff, h.records_live, List.mem_map]
  simp only [List.mem_filter, decide_eq_true_eq, and_assoc]
  exact exists_congr fun r => and_congr_right fun _ => and_comm

theorem mono (h : s.Mirrors ledger now) (hle : now.instant ≤ later.instant) :
    s.Mirrors ledger later where
  allAware := h.allAware
  records_live := by
    rw [← live_live hle, live, records_filter, h.records_live, List.filter_filter]
    refine List.filter_congr fun r _ => ?_
    by_cases hlater : later.instant < r.expires.instant
    · have hnow : now.instant < r.expires.instant := by omega
      simp [hlater, hnow]
    · simp [hlater]
  over_of_again := h.over_of_again.imp fun hover hnonce => (hover hnonce).trans hle

/-- An access leaves a swept store that mirrors the ledger with what it has been granted. -/
theorem perform (h : s.Mirrors ledger a.now) (ha : a.isAware = true) :
    (s.perform a).2.Mirrors (ledger ++ (a.grant? (s.perform a).1).toList) a.now ∧
      (s.perform a).2.live a.now = (s.perform a).2 := by
  have hrecords := records_perform h.allAware ha
  cases hgrant : a.grant? (s.perform a).1 with
  | none =>
    rw [hgrant, Option.toList_none, List.append_nil] at hrecords
    rw [eq_of_records_eq hrecords, Option.toList_none, List.append_nil, live_live le_rfl]
    exact ⟨⟨allAware_live h.allAware, by rw [live_live le_rfl, h.records_live],
      h.over_of_again⟩, rfl⟩
  | some r =>
    obtain ⟨-, hlive, hfree⟩ := of_grant? h.allAware ha hgrant
    rw [hgrant, Option.toList_some] at hrecords
    have hswept : ((s.perform a).2.live a.now) = (s.perform a).2 := by
      apply eq_of_records_eq
      rw [live, records_filter, hrecords, List.filter_append]
      simp [live, hlive]
    refine ⟨⟨allAware_perform h.allAware ha, ?_, ?_⟩, hswept⟩
    · rw [hswept, hrecords, h.records_live, Option.toList_some, List.filter_append]
      simp [hlive]
    · rw [Option.toList_some, List.pairwise_append]
      refine ⟨h.over_of_again, List.pairwise_singleton _ _, fun old hold new hnew hnonce => ?_⟩
      rw [List.mem_singleton] at hnew
      subst hnew
      -- a reservation of the nonce that is not over would have kept it from being granted
      by_contra hlasts
      exact hfree (h.holds_iff.2 ⟨old, hold, hnonce, not_le.1 hlasts⟩)

/-- Of each nonce the swept store has the last reservation if that is not over, and nothing else. -/
theorem filter_nonce (h : s.Mirrors ledger now) (nonce : String) :
    (s.live now).records.filter (·.nonce = nonce) =
      ((last? ledger nonce).filter fun r => now.instant < r.expires.instant).toList := by
  have hover : (ledger.filter (·.nonce = nonce)).Pairwise fun r _ =>
      ¬(decide (now.instant < r.expires.instant)) = true := by
    refine (h.over_of_again.filter _).imp_of_mem fun {r r'} hr hr' hagain => ?_
    rw [decide_eq_true_eq, not_lt]
    refine hagain ?_
    rw [of_decide_eq_true (List.mem_filter.1 hr).2, of_decide_eq_true (List.mem_filter.1 hr').2]
  rw [h.records_live, List.filter_comm, filter_eq_getLast? hover]
  rfl

/-- The swept store has one record for each nonce whose last reservation is not over. -/
theorem length_live (h : s.Mirrors ledger now) :
    (s.live now).records.length =
      {nonce | ∃ r, last? ledger nonce = some r ∧ now.instant < r.expires.instant}.ncard := by
  have hnonces : {nonce | ∃ r, last? ledger nonce = some r ∧ now.instant < r.expires.instant} =
      ((s.live now).records.map (·.nonce)).toFinset := by
    ext nonce
    have hmem : nonce ∈ (s.live now).records.map (·.nonce) ↔
        (s.live now).records.filter (·.nonce = nonce) ≠ [] := by
      simp [List.filter_eq_nil_iff, and_assoc]
    rw [Set.mem_ofPred_eq, Finset.mem_coe, List.mem_toFinset, hmem, h.filter_nonce]
    cases last? ledger nonce with
    | none => simp
    | some r => by_cases hlive : now.instant < r.expires.instant <;> simp [hlive]
  rw [hnonces, Set.ncard_coe_finset, List.toFinset_card_of_nodup (s.live now).nodup,
    List.length_map]

end Mirrors

/-! ### Many accesses -/

/-- The answers to accesses one after another, each with the store that it leaves. -/
def results (start : MemoryStore) (accesses : List Access) : List (Answer × MemoryStore) :=
  Sequence.results perform Prod.snd start accesses

/-- The store that the access at an index finds. -/
def found (accesses : List Access) (k : ℕ) : MemoryStore :=
  Sequence.before perform Prod.snd empty accesses k

/-- The reservations that were granted before the access at an index, in their order. -/
def ledgerBefore (accesses : List Access) (k : ℕ) : List NonceRecord :=
  ((accesses.zip (results empty accesses)).take k).filterMap fun p => p.1.grant? p.2.1

theorem results_cons (start : MemoryStore) (a : Access) (accesses : List Access) :
    results start (a :: accesses) =
      start.perform a :: results (start.perform a).2 accesses := rfl

theorem getElem?_results (h : accesses[k]? = some a) :
    (results empty accesses)[k]? = some ((found accesses k).perform a) := by
  unfold results
  rw [Sequence.getElem?_results, h]
  rfl

theorem found_succ (h : accesses[k]? = some a) :
    found accesses (k + 1) = ((found accesses k).perform a).2 :=
  Sequence.before_succ _ _ h

theorem ledgerBefore_succ (h : accesses[k]? = some a) :
    ledgerBefore accesses (k + 1) =
      ledgerBefore accesses k ++ (a.grant? ((found accesses k).perform a).1).toList := by
  have hzip : (accesses.zip (results empty accesses))[k]? =
      some (a, (found accesses k).perform a) := by
    rw [List.getElem?_zip_eq_some]
    exact ⟨h, getElem?_results h⟩
  unfold ledgerBefore
  rw [List.take_add_one, hzip, Option.toList_some, List.filterMap_append]
  cases hgrant : a.grant? ((found accesses k).perform a).1 <;> simp [hgrant]

/-- Reference times do not go back. -/
def Ordered (accesses : List Access) : Prop :=
  accesses.Pairwise fun a b => a.now.instant ≤ b.now.instant

/-- Each access finds a store that mirrors the ledger. -/
theorem mirrors_found (haware : ∀ a ∈ accesses, a.isAware = true) (hordered : Ordered accesses)
    (h : accesses[k]? = some a) : (found accesses k).Mirrors (ledgerBefore accesses k) a.now := by
  induction k generalizing a with
  | zero => exact mirrors_empty a.now
  | succ k ih =>
    obtain ⟨hk, rfl⟩ := List.getElem?_eq_some_iff.1 h
    have hearlier : accesses[k]? = some accesses[k] := List.getElem?_eq_getElem (by omega)
    have hle : accesses[k].now.instant ≤ accesses[k + 1].now.instant :=
      List.pairwise_iff_getElem.1 hordered k (k + 1) (by omega) hk (by omega)
    rw [found_succ hearlier, ledgerBefore_succ hearlier]
    exact ((ih hearlier).perform (haware _ (List.getElem_mem _))).1.mono hle

/-- A nonce is granted just if its reservation is not over at once and all earlier ones are, to
callers of every kind. -/
theorem Mirrors.exists_granted (h : s.Mirrors ledger now) (hexpires : expires.isAware = true)
    (hnow : now.isAware = true) :
    ∃ granted : Bool,
      (granted = true ↔ now.instant < expires.instant ∧
        ∀ r ∈ ledger, r.nonce = nonce → r.expires.instant ≤ now.instant) ∧
      s.reserve nonce expires now = (.ok granted, (s.reserve nonce expires now).2) ∧
      ∀ caller, (NonceStore.memory s).reserve caller nonce expires now =
        ⟨.ok granted, .memory (s.reserve nonce expires now).2, [], []⟩ := by
  have hanswer : (s.reserve nonce expires now).1 = _ := reserve_fst h.allAware hexpires hnow
  refine ⟨_, ?_, Prod.ext hanswer rfl, fun caller => ?_⟩
  · rw [decide_eq_true_eq, h.holds_iff]
    push Not
    rfl
  · unfold NonceStore.reserve
    dsimp only
    rw [hanswer]
    rfl

/-- Accesses that only count can be left out: the other answers, and the stores after them, stay the
same. -/
theorem results_unmarked {marks : List Bool} (haware : ∀ a ∈ accesses, a.isAware = true)
    (hordered : Ordered accesses) (hs : s.AllAware) (hs' : s'.AllAware)
    (hlive : ∀ a ∈ accesses, s.live a.now = s'.live a.now)
    (hmarked : ∀ a ∈ marked marks accesses, a.isSize = true) :
    results s' (unmarked marks accesses) = unmarked marks (results s accesses) := by
  induction accesses generalizing s s' marks with
  | nil => simp [results, Sequence.results]
  | cons a accesses ih =>
    rw [List.forall_mem_cons] at haware hlive
    obtain ⟨hfirst, hordered⟩ := List.pairwise_cons.1 hordered
    have hsame : s.perform a = s'.perform a := by
      rw [← perform_live hs haware.1, hlive.1, perform_live hs' haware.1]
    have hs₁ : (s.perform a).2.AllAware := allAware_perform hs haware.1
    rw [results_cons]
    cases marks with
    | nil => exact (results_cons ..).trans (by rw [← hsame]; rfl)
    | cons mark marks =>
      cases mark with
      | true =>
        -- the count has swept the one store and not the other, which no later access notices
        have hsize : a.isSize = true := hmarked a List.mem_cons_self
        refine ih haware.2 hordered hs₁ hs' (fun b hb => ?_) fun b hb =>
          hmarked b (List.mem_cons_of_mem _ hb)
        rw [perform_of_isSize hs haware.1 hsize, live_live (hfirst b hb), hlive.2 b hb]
      | false =>
        have hrest := ih haware.2 hordered hs₁ hs₁ (fun _ _ => rfl) hmarked
        show results s' (a :: unmarked marks accesses) = _
        rw [results_cons, ← hsame, hrest]
        rfl

/-- All that a local store answers and holds can be told from the ledger of what it has granted. -/
structure TellsLedger (accesses : List Access) : Prop where
  /-- A nonce is granted, whoever asks, just if its reservation is not over at once and no earlier
  one of the nonce lasts. -/
  granted_iff : ∀ k nonce expires given clock,
    accesses[k]? = some (.reserve nonce expires given clock) →
      ∃ granted : Bool,
        (granted = true ↔ (given.getD clock).instant < expires.instant ∧
          ∀ r ∈ ledgerBefore accesses k, r.nonce = nonce →
            r.expires.instant ≤ (given.getD clock).instant) ∧
        (results empty accesses)[k]? = some (.reserved (.ok granted), found accesses (k + 1)) ∧
        ∀ caller, (NonceStore.memory (found accesses k)).reserve caller nonce expires
          (given.getD clock) = ⟨.ok granted, .memory (found accesses (k + 1)), [], []⟩
  /-- A count is the number of nonces whose last reservation lasts. -/
  count_eq : ∀ k clock, accesses[k]? = some (.size clock) →
    (results empty accesses)[k]? = some (.counted (.ok {nonce | ∃ r,
      last? (ledgerBefore accesses k) nonce = some r ∧
        clock.instant < r.expires.instant}.ncard), found accesses (k + 1))
  /-- Each access leaves one record for each nonce whose last reservation lasts, and nothing
  else. -/
  records_eq : ∀ k a, accesses[k]? = some a → ∀ nonce,
    (found accesses (k + 1)).records.filter (·.nonce = nonce) =
      ((last? (ledgerBefore accesses (k + 1)) nonce).filter fun r =>
        a.now.instant < r.expires.instant).toList
  /-- Counts that are taken in between make no difference. -/
  counts_unobserved : ∀ marks, (∀ a ∈ marked marks accesses, a.isSize = true) →
    results empty (unmarked marks accesses) = unmarked marks (results empty accesses)

/-- A local store that starts empty tells what its ledger tells if all times state their offset and
reference times do not go back. -/
theorem accesses_tell_ledger (accesses : List Access) (haware : ∀ a ∈ accesses, a.isAware = true)
    (hordered : Ordered accesses) : TellsLedger accesses where
  granted_iff k nonce expires given clock h := by
    obtain ⟨hexpires, hnow⟩ := Bool.and_eq_true_iff.1 (haware _ (List.mem_of_getElem? h))
    have hmirrors : (found accesses k).Mirrors (ledgerBefore accesses k) (given.getD clock) :=
      mirrors_found haware hordered h
    obtain ⟨granted, hiff, hreserve, hcallers⟩ := hmirrors.exists_granted hexpires hnow
    have hperform : (found accesses k).perform (.reserve nonce expires given clock) =
        (.reserved (.ok granted), found accesses (k + 1)) := by
      rw [found_succ h]
      unfold perform
      dsimp only [Access.now]
      rw [hreserve]
      rfl
    refine ⟨granted, hiff, ?_, fun caller => ?_⟩
    · rw [getElem?_results h, hperform]
    · rw [found_succ h]
      exact hcallers caller
  count_eq k clock h := by
    have hmirrors : (found accesses k).Mirrors (ledgerBefore accesses k) clock :=
      mirrors_found haware hordered h
    have ha := haware _ (List.mem_of_getElem? h)
    rw [getElem?_results h, found_succ h, perform_of_isSize hmirrors.allAware ha rfl,
      ← hmirrors.length_live]
    rfl
  records_eq k a h nonce := by
    obtain ⟨hmirrors, hswept⟩ :=
      (mirrors_found haware hordered h).perform (haware _ (List.mem_of_getElem? h))
    rw [found_succ h, ledgerBefore_succ h, ← hmirrors.filter_nonce, hswept]
  counts_unobserved marks hmarked :=
    results_unmarked haware hordered allAware_empty allAware_empty (fun _ _ => rfl) hmarked

/-- Two nonces, one of them at the very time at which it is over, the other with a reservation that
is over before it is made. -/
def sampleAccesses : List Access :=
  [.reserve "n" (Verifier.sampleMinute 5) none (Verifier.sampleMinute 0),
    .reserve "n" (Verifier.sampleMinute 9) (some (Verifier.sampleMinute 4))
      (Verifier.sampleMinute 8),
    .size (Verifier.sampleMinute 4),
    .reserve "n" (Verifier.sampleMinute 9) none (Verifier.sampleMinute 5),
    .reserve "m" (Verifier.sampleMinute 5) none (Verifier.sampleMinute 5),
    .size (Verifier.sampleMinute 6)]

theorem sampleAccesses_tell_ledger :
    (∀ a ∈ sampleAccesses, a.isAware = true) ∧ Ordered sampleAccesses ∧
      (results empty sampleAccesses).map (·.1) =
        [.reserved (.ok true), .reserved (.ok false), .counted (.ok 1), .reserved (.ok true),
          .reserved (.ok false), .counted (.ok 1)] ∧
      ledgerBefore sampleAccesses 6 =
        [⟨"n", Verifier.sampleMinute 5⟩, ⟨"n", Verifier.sampleMinute 9⟩] ∧
      TellsLedger sampleAccesses := by
  have haware : ∀ a ∈ sampleAccesses, a.isAware = true := by decide
  have hordered : Ordered sampleAccesses := by
    unfold Ordered
    decide +kernel
  exact ⟨haware, hordered, by decide +kernel, by decide +kernel,
    accesses_tell_ledger sampleAccesses haware hordered⟩

end WebhookAuth.MemoryStore
