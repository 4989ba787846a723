import WebhookAuth.Proofs.Instant
import WebhookAuth.Store.Memory

/-!
# Reservations in the local store

A nonce is held at a time if a record of it is not over by then. For times that state their offset,
a reservation is granted exactly if it is not over at once and the nonce is not held
(`reserve_fst`), and what it leaves are the records that are not over, with the new one if it is
granted (`mem_records_reserve`).
-/

namespace WebhookAuth.MemoryStore

variable {s : MemoryStore} {nonce : String} {expires now : DateTime} {r : NonceRecord}

/-- The expiries of all records state their offset. -/
def AllAware (s : MemoryStore) : Prop := ∀ r ∈ s.records, r.expires.isAware = true

/-- A record of the nonce is not over at the time. -/
def Holds (s : MemoryStore) (nonce : String) (now : DateTime) : Prop :=
  ∃ r ∈ s.records, r.nonce = nonce ∧ now.instant < r.expires.instant

instance : Decidable (s.Holds nonce now) := inferInstanceAs (Decidable (∃ r ∈ s.records, _))

/-- The store without the records that are over at a time. -/
def live (s : MemoryStore) (now : DateTime) : MemoryStore :=
  s.filter fun r => now.instant < r.expires.instant

@[simp] theorem mem_records_live :
    r ∈ (s.live now).records ↔ r ∈ s.records ∧ now.instant < r.expires.instant := by
  simp [live]

theorem mem_nonces_live_iff :
    nonce ∈ (s.live now).records.map (·.nonce) ↔ s.Holds nonce now := by
  rw [List.mem_map]
  constructor
  · rintro ⟨r, hr, rfl⟩
    obtain ⟨hmem, hlive⟩ := mem_records_live.1 hr
    exact ⟨r, hmem, rfl, hlive⟩
  · rintro ⟨r, hmem, rfl, hlive⟩
    exact ⟨r, mem_records_live.2 ⟨hmem, hlive⟩, rfl⟩

theorem allAware_empty : empty.AllAware := by
  intro r hr
  cases hr

theorem not_holds_empty : ¬empty.Holds nonce now := by
  rintro ⟨r, hr, -, -⟩
  cases hr

theorem sweep_of_allAware (hs : s.AllAware) (hnow : now.isAware = true) :
    s.sweep now = .ok (s.live now) := by
  have hall : (s.records.all fun r => r.expires.isAware == now.isAware) = true := by
    rw [List.all_eq_true]
    intro r hr
    rw [hs r hr, hnow]
    rfl
  unfold sweep
  rw [if_pos hall]
  rfl

/-- One expiry without an offset keeps all records from being swept. -/
theorem sweep_of_not_allAware (hs : ¬s.AllAware) (hnow : now.isAware = true) :
    s.sweep now = .error .mixedComparison := by
  have hall : ¬(s.records.all fun r => r.expires.isAware == now.isAware) = true := by
    rw [List.all_eq_true]
    intro h
    exact hs fun r hr => (beq_iff_eq.1 (h r hr)).trans hnow
  unfold sweep
  rw [if_neg hall]
  rfl

/-- A reservation between times that state their offset, in one piece. -/
theorem reserve_of_allAware (hs : s.AllAware) (hexpires : expires.isAware = true)
    (hnow : now.isAware = true) :
    s.reserve nonce expires now =
      if h : now.instant < expires.instant ∧ nonce ∉ (s.live now).records.map (·.nonce) then
        (.ok true, (s.live now).insert ⟨nonce, expires⟩ h.2)
      else (.ok false, s.live now) := by
  unfold reserve
  rw [sweep_of_allAware hs hnow]
  dsimp only
  rw [DateTime.notAfter_of_aware hexpires hnow]
  -- a reservation that is over at once is refused before its nonce is looked up
  by_cases hover : expires.instant ≤ now.instant
  · have hrefused : ¬(now.instant < expires.instant ∧
        nonce ∉ (s.live now).records.map (·.nonce)) := fun h => absurd h.1 (not_lt.2 hover)
    rw [decide_eq_true hover, dif_neg hrefused]
  · rw [decide_eq_false hover]
    dsimp only
    split_ifs with hheld hgranted hgranted
    · exact absurd hheld hgranted.2
    · rfl
    · rfl
    · exact absurd ⟨by omega, hheld⟩ hgranted

/-- A reservation is granted exactly if it is not over at once and the nonce is not held. -/
theorem reserve_fst (hs : s.AllAware) (hexpires : expires.isAware = true)
    (hnow : now.isAware = true) :
    (s.reserve nonce expires now).1 =
      .ok (decide (now.instant < expires.instant ∧ ¬s.Holds nonce now)) := by
  have hfree : nonce ∉ (s.live now).records.map (·.nonce) ↔ ¬s.Holds nonce now :=
    not_congr mem_nonces_live_iff
  rw [reserve_of_allAware hs hexpires hnow]
  split_ifs with h
  · rw [decide_eq_true ⟨h.1, hfree.1 h.2⟩]
  · rw [decide_eq_false fun h' => h ⟨h'.1, hfree.2 h'.2⟩]

/-- A reservation leaves the records that are not over, with the new one if it is granted. -/
theorem mem_records_reserve (hs : s.AllAware) (hexpires : expires.isAware = true)
    (hnow : now.isAware = true) :
    r ∈ (s.reserve nonce expires now).2.records ↔
      (r ∈ s.records ∧ now.instant < r.expires.instant) ∨
        ((s.reserve nonce expires now).1 = .ok true ∧ r = ⟨nonce, expires⟩) := by
  rw [reserve_of_allAware hs hexpires hnow]
  split_ifs with h
  · simp
  · simp

/-- Reservations keep all expiries comparable. -/
theorem allAware_reserve (hs : s.AllAware) (hexpires : expires.isAware = true)
    (hnow : now.isAware = true) : (s.reserve nonce expires now).2.AllAware := by
  intro r hr
  rcases (mem_records_reserve hs hexpires hnow).1 hr with ⟨hmem, -⟩ | ⟨-, rfl⟩
  · exact hs r hmem
  · exact hexpires

end WebhookAuth.MemoryStore
