import WebhookAuth.Proofs.Instant
import WebhookAuth.Proofs.Rounding
import WebhookAuth.Store.Remote

/-!
# The time to live of a key

A span of time is brought to milliseconds by a quotient and a product that are both rounded. The two
errors together stay below half a microsecond (`RemoteStore.abs_millis_sub_lt`), so that a whole
millisecond is lost at most where the span is a number of them, and none is gained
(`RemoteStore.millisOf_eq_or`); both roundings are monotone, and so is the whole
(`RemoteStore.millisOf_mono`). Hence what the server is told is right up to one millisecond, is no
longer than what is left, and moves with the times that it is computed from
(`RemoteStore.ttlMillis_tells`).
-/

namespace WebhookAuth

open Rounding

namespace RemoteStore

variable {micros micros' left : ℤ}

/-! ### Milliseconds -/

/-- The milliseconds of a span before the fraction is cut off. -/
def millis (micros : ℤ) : ℚ := nearest (nearest (micros / 1000000) * 1000)

theorem value_millis (micros : ℤ) :
    ((Duration.toSeconds micros).scale 1000).nearest.value = millis micros := by
  rw [Ratio.value_nearest, Ratio.value_scale, Duration.value_toSeconds]
  rfl

theorem millis_mono : Monotone millis := by
  intro micros micros' h
  have h' : (micros : ℚ) ≤ micros' := by exact_mod_cast h
  unfold millis
  refine nearest_mono (mul_le_mul_of_nonneg_right (nearest_mono ?_) (by norm_num))
  linarith

@[simp] theorem millis_zero : millis 0 = 0 := by simp [millis]

theorem millisOf_mono : Monotone millisOf := by
  intro micros micros' h
  refine Ratio.truncate_mono ?_
  rw [value_millis, value_millis]
  exact millis_mono h

theorem millisOf_of_nonneg (h : 0 ≤ micros) : millisOf micros = ⌊millis micros⌋ := by
  have hvalue : 0 ≤ millis micros := millis_zero ▸ millis_mono h
  rw [← value_millis] at hvalue ⊢
  exact Ratio.truncate_of_nonneg hvalue

theorem millisOf_nonpos (h : micros ≤ 0) : millisOf micros ≤ 0 := by
  have hzero : millisOf 0 = 0 := by
    rw [millisOf_of_nonneg le_rfl, millis_zero, Int.floor_zero]
  exact (millisOf_mono h).trans_eq hzero

/-- A hundred years. -/
def centuryMicros : ℤ := 36500 * dayMicros

/-- Up to a hundred years the two roundings err by less than half a microsecond: the seconds have
53 bits down to 2⁻²¹ and the milliseconds down to 2⁻¹¹. -/
theorem abs_millis_sub_lt (hnonneg : 0 ≤ micros) (h : micros ≤ centuryMicros) :
    |millis micros - micros / 1000| < 1 / 2000 := by
  have hpos : (0 : ℚ) ≤ micros := by exact_mod_cast hnonneg
  have hmax : (micros : ℚ) ≤ 3153600000000000 := by
    have hmax : micros ≤ 3153600000000000 := h.trans_eq (by decide)
    exact_mod_cast hmax
  have hseconds : |nearest (micros / 1000000) - micros / 1000000| ≤ 1 / 2 ^ 22 := by
    have herror := abs_nearest_sub_le_half (v := micros / 1000000) (e := -21) (by norm_num) (by
      rw [abs_of_nonneg (by positivity)]
      norm_num
      linarith)
    norm_num at herror ⊢
    exact herror
  obtain ⟨hlower, hupper⟩ := abs_le.1 hseconds
  have hproduct : |millis micros - nearest (micros / 1000000) * 1000| ≤ 1 / 2 ^ 12 := by
    have herror := abs_nearest_sub_le_half (v := nearest (micros / 1000000) * 1000) (e := -11)
      (by norm_num) (by
        rw [abs_le]
        norm_num at hlower hupper ⊢
        constructor <;> linarith)
    norm_num at herror ⊢
    exact herror
  obtain ⟨hlower', hupper'⟩ := abs_le.1 hproduct
  rw [abs_lt]
  norm_num at hlower hupper hlower' hupper' ⊢
  constructor <;> linarith

/-- A span in milliseconds is its whole number of them, or one less where nothing is cut off. -/
theorem millisOf_eq_or (hnonneg : 0 ≤ micros) (h : micros ≤ centuryMicros) :
    millisOf micros = micros / 1000 ∨ 1000 ∣ micros ∧ millisOf micros = micros / 1000 - 1 := by
  obtain ⟨hlower, hupper⟩ := abs_lt.1 (abs_millis_sub_lt hnonneg h)
  have hsplit : (micros : ℚ) = 1000 * (micros / 1000 : ℤ) + (micros % 1000 : ℤ) := by
    exact_mod_cast (Int.mul_ediv_add_emod micros 1000).symm
  have hrest : ((micros % 1000 : ℤ) : ℚ) ≤ 999 := by
    have : micros % 1000 ≤ 999 := by omega
    exact_mod_cast this
  rw [millisOf_of_nonneg hnonneg]
  rcases eq_or_ne (micros % 1000) 0 with hzero | hne
  · -- the exact number is whole, and may be missed from below
    rw [hzero, Int.cast_zero, add_zero] at hsplit
    rcases le_or_gt ((micros / 1000 : ℤ) : ℚ) (millis micros) with hreached | hmissed
    · refine .inl (Int.floor_eq_iff.2 ⟨hreached, ?_⟩)
      linarith
    · refine .inr ⟨Int.dvd_of_emod_eq_zero hzero, Int.floor_eq_iff.2 ⟨?_, ?_⟩⟩
      · push_cast
        linarith
      · push_cast
        linarith
  · -- the exact number is a microsecond or more away from the whole ones around it
    have hrest' : (1 : ℚ) ≤ (micros % 1000 : ℤ) := by
      have : 1 ≤ micros % 1000 := by omega
      exact_mod_cast this
    refine .inl (Int.floor_eq_iff.2 ⟨?_, ?_⟩)
    · linarith
    · linarith

/-! ### What the server is told -/

section Commands

variable {s : RemoteStore} {expires now : DateTime} {caller : Caller} {nonce : String}

/-- The span that a nonce is remembered for. -/
def span (s : RemoteStore) (expires now : DateTime) : ℤ :=
  min (expires.instant - now.instant) s.maxTtl.micros

theorem ttlMillis_eq (haware : expires.isAware = now.isAware) :
    s.ttlMillis expires now = .ok (max (millisOf (s.span expires now)) 1) := by
  unfold ttlMillis DateTime.microsSince
  rw [if_pos haware]
  rfl

/-- The whole number of milliseconds but at least one, or one less, if nothing is cut off. -/
theorem ttl_eq_or (h : left ≤ centuryMicros) :
    max (millisOf left) 1 = max 1 (left / 1000) ∨
      max (millisOf left) 1 = max 1 (left / 1000 - 1) ∧ 0 < left ∧ 1000 ∣ left := by
  rcases le_or_gt left 0 with hover | hpos
  · left
    have hmillis := millisOf_nonpos hover
    omega
  · rcases millisOf_eq_or hpos.le h with hmillis | ⟨hwhole, hmillis⟩
    · left
      rw [hmillis, max_comm]
    · right
      rw [hmillis, max_comm]
      exact ⟨rfl, hpos, hwhole⟩

/-- It does not exceed the span from one millisecond on. -/
theorem ttl_le (h : left ≤ centuryMicros) (hleft : 1000 ≤ left) :
    1000 * max (millisOf left) 1 ≤ left := by
  rcases ttl_eq_or h with httl | ⟨httl, -, -⟩
  · rw [httl]
    omega
  · rw [httl]
    omega

theorem ttlMillis_of_command {c : SetCommand} (h : s.command nonce expires now = .ok c) :
    s.ttlMillis expires now = .ok c.ttlMillis := by
  unfold command at h
  split_ifs at h
  cases httl : s.ttlMillis expires now with
  | error e =>
    rw [httl] at h
    cases h
  | ok ttl =>
    rw [httl] at h
    cases h
    rfl

/-- A command that reaches the server is the one for the nonce and the times. -/
theorem command_of_mem_commands {c : SetCommand}
    (h : c ∈ (s.reserve caller nonce expires now).commands) :
    s.command nonce expires now = .ok c := by
  unfold reserve reserveVia at h
  by_cases hclient : (s.clientOf caller).isNone
  · rw [if_pos hclient] at h
    cases h
  rw [if_neg hclient] at h
  cases hcommand : s.command nonce expires now with
  | error e =>
    rw [hcommand] at h
    cases h
  | ok sent =>
    rw [hcommand] at h
    dsimp only at h
    by_cases htime : s.givesNoTime caller = true
    · rw [if_pos htime] at h
      cases h
    rw [if_neg htime] at h
    dsimp only at h
    split_ifs at h with hsilent
    · cases h
    · rw [List.mem_singleton.1 h]

/-- The time to live of a key, where the longest is a hundred years or less. It is the span until
the expiry, or the longest, in whole milliseconds but at least one; or one less, where the span is a
positive number of milliseconds. Every command tells the server this number, which from one
millisecond on exceeds neither the time left nor the longest time. It does not get shorter for a
later expiry, nor longer at a later time. -/
theorem ttlMillis_tells (s : RemoteStore) (hmax : s.maxTtl.micros ≤ centuryMicros)
    (haware : expires.isAware = now.isAware) :
    ∃ ttl, s.ttlMillis expires now = .ok ttl ∧
      (ttl = max 1 (s.span expires now / 1000) ∨
        ttl = max 1 (s.span expires now / 1000 - 1) ∧ 0 < s.span expires now ∧
          1000 ∣ s.span expires now) ∧
      (∀ caller nonce, ∀ c ∈ (s.reserve caller nonce expires now).commands, c.ttlMillis = ttl) ∧
      1 ≤ ttl ∧
      (1000 ≤ s.span expires now →
        1000 * ttl ≤ expires.instant - now.instant ∧ 1000 * ttl ≤ s.maxTtl.micros) ∧
      (∀ later : DateTime, later.isAware = expires.isAware → expires.instant ≤ later.instant →
        ∃ ttl', s.ttlMillis later now = .ok ttl' ∧ ttl ≤ ttl') ∧
      ∀ later : DateTime, later.isAware = now.isAware → now.instant ≤ later.instant →
        ∃ ttl', s.ttlMillis expires later = .ok ttl' ∧ ttl' ≤ ttl := by
  have hspan : s.span expires now ≤ centuryMicros := (min_le_right _ _).trans hmax
  refine ⟨_, ttlMillis_eq haware, ttl_eq_or hspan, ?_, le_max_right _ _, ?_, ?_, ?_⟩
  · intro caller nonce c hc
    have httl := ttlMillis_of_command (command_of_mem_commands hc)
    rw [ttlMillis_eq haware] at httl
    exact (Except.ok.inj httl).symm
  · intro hleft
    have hfits := ttl_le hspan hleft
    exact ⟨hfits.trans (min_le_left _ _), hfits.trans (min_le_right _ _)⟩
  · intro later hlater hle
    refine ⟨_, ttlMillis_eq (hlater.trans haware), max_le_max_right 1 (millisOf_mono ?_)⟩
    exact min_le_min_right _ (by omega)
  · intro later hlater hle
    refine ⟨_, ttlMillis_eq (haware.trans hlater.symm), max_le_max_right 1 (millisOf_mono ?_)⟩
    exact min_le_min_right _ (by omega)

/-- A store with a blocking client that remembers nonces for a day at most. -/
def sampleKeys : RemoteStore where
  blockingClient := some {}
  awaitingClient := none
  keyStart := defaultKeyStart
  maxTtl := .seconds 86400
  timeout := none
  server := {}
  maxTtl_pos := by decide

/-- A second after the start of 1970. -/
def sampleStart : DateTime := ⟨epochWall + 1000000, some .utc, by decide⟩

/-- An hour and 1.001 seconds later on a clock an hour ahead: after 1.001 seconds. -/
def sampleEnd : DateTime := ⟨epochWall + 3602001000, some ⟨3600000000, by decide⟩, by decide⟩

/-- Of 1001 milliseconds one is lost, and the server is told 1000. -/
theorem ttlMillis_tells_samples :
    sampleKeys.maxTtl.micros ≤ centuryMicros ∧ sampleEnd.isAware = sampleStart.isAware ∧
      sampleKeys.span sampleEnd sampleStart = 1001 * 1000 ∧
      sampleKeys.ttlMillis sampleEnd sampleStart = .ok 1000 ∧
      (sampleKeys.reserve .blocking "n" sampleEnd sampleStart).commands ≠ [] ∧
      ∀ c ∈ (sampleKeys.reserve .blocking "n" sampleEnd sampleStart).commands,
        c.ttlMillis = 1000 := by
  have hmax : sampleKeys.maxTtl.micros ≤ centuryMicros := by decide
  have haware : sampleEnd.isAware = sampleStart.isAware := rfl
  have httl : sampleKeys.ttlMillis sampleEnd sampleStart = .ok 1000 := by decide +kernel
  obtain ⟨ttl, httl', -, hsent, -⟩ := ttlMillis_tells sampleKeys hmax haware
  cases httl.symm.trans httl'
  exact ⟨hmax, haware, by decide, httl, by decide +kernel, hsent .blocking "n"⟩

end Commands

end RemoteStore

end WebhookAuth
