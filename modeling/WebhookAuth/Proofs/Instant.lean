import Mathlib.Tactic
import WebhookAuth.Timestamp

/-!
# Instants

What the operations on times do to the instant that a time names, and to whether it states an
offset: `instant_of_add`, `isAware_of_read`. There is a time in UTC for every instant on the
calendar (`DateTime.exists_ofInstant`), and for no other (`DateTime.ofInstant_eq_error`); which
instant the value of a timestamp header is read as is told by `Timestamp.ReadsAs`.
-/

namespace WebhookAuth

theorem mapError_eq_ok_iff {ε ε' α : Type} {x : Except ε α} {f : ε → ε'} {a : α} :
    x.mapError f = .ok a ↔ x = .ok a := by
  cases x <;> simp [Except.mapError]

theorem Duration.micros_of_ofMicros {n : ℤ} {d : Duration} (h : Duration.ofMicros n = .ok d) :
    d.micros = n := by
  unfold Duration.ofMicros at h
  split at h
  · cases h; rfl
  · cases h

namespace DateTime

theorem wall_of_ofWall {wall : ℤ} {offset : Option Offset} {t : DateTime}
    (h : ofWall wall offset = .ok t) : (t.wall : ℤ) = wall ∧ t.offset = offset := by
  unfold ofWall ofWall? at h
  split at h
  · rename_i found hfound
    split at hfound
    · rename_i hrange
      cases hfound
      cases h
      exact ⟨Int.toNat_of_nonneg hrange.1, rfl⟩
    · cases hfound
  · cases h

/-- A time is told by its offset and its instant. -/
theorem eq_of_instant_eq {t u : DateTime} (hoffset : t.offset = u.offset)
    (h : t.instant = u.instant) : t = u := by
  have hwall : t.wall = u.wall := by
    unfold instant at h
    rw [hoffset] at h
    omega
  cases t
  cases u
  cases hoffset
  cases hwall
  rfl

/-- The instant lies in the years 1 to 9999 in UTC. -/
def OnCalendar (instant : ℤ) : Prop :=
  (Calendar.daysBeforeYear 1 : ℤ) * dayMicros ≤
      instant + Calendar.daysBeforeYear 1970 * dayMicros ∧
    instant + Calendar.daysBeforeYear 1970 * dayMicros < Calendar.daysBeforeYear 10000 * dayMicros

instance {n : ℤ} : Decidable (OnCalendar n) := inferInstanceAs (Decidable (_ ∧ _))

theorem onCalendar_iff {n : ℤ} : OnCalendar n ↔ 0 ≤ n + epochWall ∧ n + epochWall < wallLimit :=
  Iff.rfl

/-- There is a time in UTC for an instant on the calendar. -/
theorem exists_ofInstant {n : ℤ} (h : OnCalendar n) :
    ∃ t, ofInstant n = .ok t ∧ t.offset = some .utc ∧ t.instant = n := by
  obtain ⟨hlower, hupper⟩ := onCalendar_iff.1 h
  have hrange : 0 ≤ n + epochWall ∧ (n + epochWall).toNat < wallLimit := by omega
  refine ⟨⟨(n + epochWall).toNat, some .utc, hrange.2⟩, ?_, rfl, ?_⟩
  · rw [ofInstant, ofWall, ofWall?, dif_pos hrange]
  · show ((n + epochWall).toNat : ℤ) - 0 - epochWall = n
    omega

theorem ofInstant_eq_error {n : ℤ} (h : ¬OnCalendar n) : ofInstant n = .error .dateOutOfRange := by
  have hrange : ¬(0 ≤ n + epochWall ∧ (n + epochWall).toNat < wallLimit) := by
    rintro ⟨hlower, hupper⟩
    exact h (onCalendar_iff.2 ⟨hlower, by omega⟩)
  rw [ofInstant, ofWall, ofWall?, dif_neg hrange]

theorem isAware_of_ofInstant {n : ℤ} {t : DateTime} (h : ofInstant n = .ok t) :
    t.isAware = true := by
  rw [isAware, (wall_of_ofWall h).2]
  rfl

/-- Adding a span of time moves the instant by it. -/
theorem instant_of_add {t u : DateTime} {d : Duration} (h : t.add d = .ok u) :
    u.instant = t.instant + d.micros := by
  obtain ⟨hwall, hoffset⟩ := wall_of_ofWall h
  rw [instant, instant, hwall, hoffset]
  ring

theorem isAware_of_add {t u : DateTime} {d : Duration} (h : t.add d = .ok u) :
    u.isAware = t.isAware := by
  rw [isAware, isAware, (wall_of_ofWall h).2]

@[simp] theorem isAware_assumeUtc (t : DateTime) : t.assumeUtc.isAware = true := by
  unfold assumeUtc
  split
  · rename_i offset h
    rw [isAware, h]
    rfl
  · rfl

theorem notAfter_of_aware {t u : DateTime} (ht : t.isAware = true) (hu : u.isAware = true) :
    t.notAfter u = .ok (decide (t.instant ≤ u.instant)) := by
  unfold notAfter
  rw [if_pos (ht.trans hu.symm)]

/-- Two instants are no further apart than the calendar and two offsets are long. -/
theorem instant_sub_lt (t u : DateTime) :
    t.instant - u.instant < wallLimit + 2 * dayMicros := by
  have hoffset (o : Option Offset) : (o.elim 0 (·.micros)).natAbs < dayMicros := by
    cases o with
    | none => decide
    | some o => exact o.bounded
  have ht := t.wall_lt
  have hto := hoffset t.offset
  have huo := hoffset u.offset
  unfold instant
  omega

end DateTime

namespace Timestamp

/-- The value is read as this instant, in UTC, and is refused if there is no such time in the years
1 to 9999. -/
def ReadsAs (value : String) (instant : ℤ) : Prop :=
  (DateTime.OnCalendar instant →
      ∃ t, read value = .ok t ∧ t.offset = some .utc ∧ t.instant = instant) ∧
    (¬DateTime.OnCalendar instant → read value = .error .outOfRange)

theorem readsAs_of_read_eq {value : String} {instant : ℤ}
    (h : read value = (DateTime.ofInstant instant).mapError fun _ => .outOfRange) :
    ReadsAs value instant := by
  refine ⟨fun hon => ?_, fun hoff => ?_⟩
  · obtain ⟨t, ht, hutc, hinstant⟩ := DateTime.exists_ofInstant hon
    exact ⟨t, by rw [h, ht]; rfl, hutc, hinstant⟩
  · rw [h, DateTime.ofInstant_eq_error hoff]
    rfl

/-- Every declared send time states its offset: it is an instant in UTC. -/
theorem isAware_of_read {value : String} {declared : DateTime} (h : read value = .ok declared) :
    declared.isAware = true := by
  unfold read at h
  dsimp only at h
  split at h
  · unfold ofWhole at h
    split at h
    · cases h
    · exact DateTime.isAware_of_ofInstant (mapError_eq_ok_iff.1 h)
  · unfold ofIso at h
    split at h
    · cases h
    · exact DateTime.isAware_of_ofInstant (mapError_eq_ok_iff.1 h)

end Timestamp

end WebhookAuth
