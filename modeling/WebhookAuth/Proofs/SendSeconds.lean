import WebhookAuth.Proofs.IsoRoundTrip
import WebhookAuth.Proofs.Rounding
import WebhookAuth.Proofs.UnixTime

/-!
# Send times in whole seconds

The seconds since 1970 of a send time are rounded before their fraction is cut off. Less than 2³³
seconds from 1970 the error is below half a microsecond, and the last microsecond of a second does
not reach the next one, on either side of 1970 (`Duration.truncate_toSeconds`). So the timestamp
that a sender writes is the exact number of whole seconds, and a verifier reads it as such
(`Timestamp.reads_back_seconds`).
-/

namespace WebhookAuth

open Rounding

namespace Duration

variable {micros : ℤ}

/-- Below 2³³ seconds a binary64 number has 53 bits down to 2⁻²⁰. -/
theorem abs_nearest_sub_lt (h : |micros| < 2 ^ 33 * 1000000) :
    |nearest (micros / 1000000) - micros / 1000000| < 1 / 1000000 := by
  have hmax : |(micros : ℚ)| < 2 ^ 33 * 1000000 := by exact_mod_cast h
  have herror := abs_nearest_sub_le_half (v := micros / 1000000) (e := -20) (by norm_num) (by
    rw [abs_div, abs_of_pos (by norm_num : (0 : ℚ) < 1000000)]
    norm_num at hmax ⊢
    linarith)
  norm_num at herror ⊢
  linarith

/-- Whole seconds toward zero, on both sides of it. -/
theorem tdiv_cases (micros : ℤ) :
    (0 ≤ micros.tdiv 1000000 ∧ 1000000 * micros.tdiv 1000000 ≤ micros ∧
        micros + 1 ≤ 1000000 * (micros.tdiv 1000000 + 1)) ∨
      (micros.tdiv 1000000 ≤ 0 ∧ 1000000 * (micros.tdiv 1000000 - 1) ≤ micros - 1 ∧
        micros ≤ 1000000 * micros.tdiv 1000000) := by
  rcases le_total 0 micros with hnonneg | hnonpos
  · left
    rw [Int.tdiv_eq_ediv_of_nonneg hnonneg]
    omega
  · right
    rw [← neg_neg micros, Int.neg_tdiv, Int.tdiv_eq_ediv_of_nonneg (by omega)]
    omega

theorem abs_tdiv_le (h : |micros| < 2 ^ 33 * 1000000) : |micros.tdiv 1000000| ≤ 2 ^ 53 := by
  rw [abs_lt] at h
  rw [abs_le]
  rcases tdiv_cases micros with hcase | hcase
  · omega
  · omega

/-- The fraction of the rounded seconds is cut off as that of the exact ones. -/
theorem truncate_toSeconds (h : |micros| < 2 ^ 33 * 1000000) :
    (toSeconds micros).truncate = micros.tdiv 1000000 := by
  have hsmall := abs_tdiv_le h
  obtain ⟨hlower, hupper⟩ := abs_lt.1 (abs_nearest_sub_lt h)
  -- rounding does not pass the whole seconds, and the error does not bridge the microsecond that is
  -- left to the next ones
  rcases tdiv_cases micros with hcase | hcase
  all_goals
    generalize micros.tdiv 1000000 = seconds at hsmall hcase
    obtain ⟨hsign, hbelow, habove⟩ := hcase
    have hbelow' := Int.cast_le (R := ℚ).2 hbelow
    have habove' := Int.cast_le (R := ℚ).2 habove
    push_cast at hbelow' habove'
  · have hreached : (seconds : ℚ) ≤ (toSeconds micros).value := by
      rw [value_toSeconds]
      exact intCast_le_nearest hsmall (by linarith)
    have hvalue : 0 ≤ (toSeconds micros).value := le_trans (by exact_mod_cast hsign) hreached
    rw [Ratio.truncate_of_nonneg hvalue, Int.floor_eq_iff]
    refine ⟨hreached, ?_⟩
    rw [value_toSeconds]
    linarith
  · have hreached : (toSeconds micros).value ≤ seconds := by
      rw [value_toSeconds]
      exact nearest_le_intCast hsmall (by linarith)
    have hvalue : (toSeconds micros).value ≤ 0 := hreached.trans (by exact_mod_cast hsign)
    rw [Ratio.truncate_of_nonpos hvalue, Int.ceil_eq_iff]
    refine ⟨?_, hreached⟩
    rw [value_toSeconds]
    linarith

end Duration

/-- The whole seconds of a time since the start of 1970, toward zero. -/
def DateTime.wholeSeconds (t : DateTime) : ℤ := t.instant.tdiv 1000000

theorem DateTime.abs_wholeSeconds_sub_lt (t : DateTime) :
    |1000000 * t.wholeSeconds - t.instant| < 1000000 ∧
      |1000000 * t.wholeSeconds| ≤ |t.instant| := by
  unfold wholeSeconds
  rw [abs_lt]
  rcases Duration.tdiv_cases t.instant with hcase | hcase
  · exact ⟨by omega, abs_le_abs_of_nonneg (by omega) (by omega)⟩
  · exact ⟨by omega, abs_le_abs_of_nonpos (by omega) (by omega)⟩

namespace SignedHeaders

variable {t : DateTime} {names : HeaderNames}

theorem timestampText_unixSeconds (h : |t.instant| < 2 ^ 33 * 1000000) :
    timestampText .unixSeconds t = .ok (toString t.wholeSeconds) := by
  rw [timestampText, Duration.truncate_toSeconds h]
  rfl

theorem exists_sign_unixSeconds (secret body : Bytes) (nonce : String)
    (h : |t.instant| < 2 ^ 33 * 1000000) :
    ∃ signature, sign secret body t nonce names .unixSeconds =
      .ok (Fields.ofAssignments [(names.timestamp, toString t.wholeSeconds), (names.nonce, nonce),
        (names.signature, signature)]) :=
  ⟨_, by rw [sign, timestampText_unixSeconds h]; rfl⟩

end SignedHeaders

namespace Timestamp

/-- What is written in seconds is read back. The timestamp of a send time less than 2³³ seconds from
the start of 1970, with an offset or read as UTC, is the exact number of whole seconds toward zero
in decimal, under its own name among the signed headers. It has at most twelve digits, and so it is
read as seconds and not as milliseconds: as a time less than a second away from the send time, and
no further from 1970. -/
theorem reads_back_seconds (t : DateTime) (h : |t.instant| < 2 ^ 33 * 1000000) :
    SignedHeaders.timestampText .unixSeconds t = .ok (toString t.wholeSeconds) ∧
      (∀ (secret body : Bytes) (nonce : String) (names : HeaderNames),
        names.timestamp ≠ names.nonce → names.timestamp ≠ names.signature →
          ∃ fields, SignedHeaders.sign secret body t nonce names .unixSeconds = .ok fields ∧
            fields.get? names.timestamp = some (toString t.wholeSeconds)) ∧
      (Nat.toDigits 10 t.wholeSeconds.natAbs).length ≤ 12 ∧
      ∃ u, read (toString t.wholeSeconds) = .ok u ∧ u.offset = some .utc ∧
        u.instant = 1000000 * t.wholeSeconds ∧ |u.instant - t.instant| < 1000000 ∧
        |u.instant| ≤ |t.instant| := by
  obtain ⟨hnear, hnearer⟩ := t.abs_wholeSeconds_sub_lt
  have hon : DateTime.OnCalendar (1000000 * t.wholeSeconds) := by
    have hclose := hnearer.trans_lt h
    rw [abs_lt] at hclose
    rw [DateTime.onCalendar_iff]
    unfold epochWall wallLimit
    omega
  obtain ⟨u, hu, hutc, hinstant⟩ := exists_read_seconds hon
  refine ⟨SignedHeaders.timestampText_unixSeconds h, ?_, length_toDigits_le 6 (by decide) hon,
    u, hu, hutc, hinstant, ?_⟩
  · intro secret body nonce names hnonce hsignature
    obtain ⟨signature, hsign⟩ := SignedHeaders.exists_sign_unixSeconds secret body nonce h
    exact ⟨_, hsign, SignedHeaders.get?_timestamp_ofAssignments hnonce hsignature⟩
  · rw [hinstant]
    exact ⟨hnear, hnearer⟩

/-- The first microsecond of 2³³ seconds before 1970, on a clock without an offset. -/
def sampleEarliest : DateTime := ⟨53545662208000001, none, by decide⟩

/-- The last microsecond of 2³³ seconds after 1970, on a clock ahead of UTC. -/
def sampleLatest : DateTime := ⟨70725551191999999, some ⟨19800000000, by decide⟩, by decide⟩

/-- The fractions .999999 on both sides are cut off. -/
theorem reads_back_seconds_samples :
    |sampleEarliest.instant| < 2 ^ 33 * 1000000 ∧ |sampleLatest.instant| < 2 ^ 33 * 1000000 ∧
      sampleEarliest.instant = -8589934591999999 ∧ sampleLatest.instant = 8589934591999999 ∧
      SignedHeaders.timestampText .unixSeconds sampleEarliest = .ok "-8589934591" ∧
      SignedHeaders.timestampText .unixSeconds sampleLatest = .ok "8589934591" ∧
      ∃ u, read "-8589934591" = .ok u ∧ u.offset = some .utc ∧
        u.instant = -8589934591000000 := by
  have hearliest : |sampleEarliest.instant| < 2 ^ 33 * 1000000 := by decide
  have hlatest : |sampleLatest.instant| < 2 ^ 33 * 1000000 := by decide
  obtain ⟨htext, -, -, u, hu, hutc, hinstant, -⟩ := reads_back_seconds sampleEarliest hearliest
  obtain ⟨htext', -⟩ := reads_back_seconds sampleLatest hlatest
  exact ⟨hearliest, hlatest, by decide, by decide, htext, htext', u, hu, hutc, hinstant⟩

end Timestamp

end WebhookAuth
