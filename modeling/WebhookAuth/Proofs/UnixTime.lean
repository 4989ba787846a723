import WebhookAuth.Proofs.AsciiText
import WebhookAuth.Proofs.Instant

/-!
# Timestamps that count seconds or milliseconds

A whole number is read from its digits, of any script and with any zeros in front
(`Numeral.exists_plain?_of_spells`). As a timestamp it counts seconds since 1970 if it is written
with up to twelve digits, and milliseconds with more (`Timestamp.read_of_spells`): the number of
digits decides, not the size. On the calendar a time in seconds has too few digits to be taken for
milliseconds, so that both ways to write it are read alike (`Timestamp.read_whole_number`).
-/

namespace WebhookAuth

open WebhookAuth.Text

variable {text : List Char} {values : List ℕ} {count : ℕ} {n : ℤ}

/-! ### Digits -/

theorem Text.mapM_digitValue?_eq_some_iff :
    text.mapM digitValue? = some values ↔
      List.Forall₂ (fun c d => digitValue? c = some d) text values := by
  induction text generalizing values with
  | nil => simp [eq_comm]
  | cons c text ih =>
    rw [List.mapM_cons, List.forall₂_cons_left_iff]
    simp only [Option.bind_eq_bind, Option.bind_eq_some_iff, Option.pure_def, Option.some.injEq]
    constructor
    · rintro ⟨d, hd, rest, hrest, rfl⟩
      exact ⟨d, rest, hd, ih.1 hrest, rfl⟩
    · rintro ⟨d, rest, hd, hrest, rfl⟩
      exact ⟨d, hd, rest, ih.2 hrest, rfl⟩

/-- No digit of any script is blank. -/
theorem Text.isBlank_of_digitValue? {c : Char} (h : (digitValue? c).isSome) :
    isBlank c = false := by
  have htable : ∀ z ∈ zeros, ∀ i < 10, isBlank (Char.ofNat (z + i)) = false := by
    decide +kernel
  obtain ⟨d, hd⟩ := Option.isSome_iff_exists.1 h
  obtain ⟨z, hz, -⟩ := Option.map_eq_some_iff.1 hd
  have hrange := List.find?_some hz
  simp only [Bool.and_eq_true, decide_eq_true_eq] at hrange
  have hblank := htable z (List.mem_of_find?_eq_some hz) (c.toNat - z) (by omega)
  rwa [Nat.add_sub_cancel' hrange.1, Char.ofNat_toNat] at hblank

namespace Numeral

theorem valueOf_eq_ofDigits (values : List ℕ) :
    valueOf values = Nat.ofDigits 10 values.reverse := by
  induction values using List.reverseRecOn with
  | nil => rfl
  | append_singleton values d ih =>
    rw [valueOf_append_singleton, ih, List.reverse_append, List.reverse_singleton,
      List.singleton_append, Nat.ofDigits_cons, add_comm]

/-- The text is a sign, if it has one, and this many decimal digits of any script, which spell the
number. -/
def Spells (text : List Char) (count : ℕ) (n : ℤ) : Prop :=
  ∃ sign digits values, text = sign ++ digits ∧ sign ∈ [[], ['+'], ['-']] ∧
    List.Forall₂ (fun c d => digitValue? c = some d) digits values ∧ digits.length = count ∧
    n = if sign = ['-'] then -((Nat.ofDigits 10 values.reverse : ℕ) : ℤ)
      else ((Nat.ofDigits 10 values.reverse : ℕ) : ℤ)

/-- A number is read from its spellings, if they have not too many digits. -/
theorem exists_plain?_of_spells (h : Spells text count n) (hcount : 0 < count)
    (hshort : count ≤ maxDigits) :
    ∃ w, plain? text = some w ∧ w.digits.length = count ∧ w.value = .ok n := by
  obtain ⟨sign, digits, values, rfl, hsign, hvalues, rfl, rfl⟩ := h
  have hread := mapM_digitValue?_eq_some_iff.2 hvalues
  obtain ⟨hlength, hdigits⟩ := mapM_digitValue?_eq_some hread
  have hnonempty : digits.isEmpty = false := by
    rw [List.isEmpty_eq_false_iff, ← List.length_pos_iff]
    exact hcount
  refine ⟨⟨decide (sign = ['-']), values⟩, ?_, hlength, ?_⟩
  · unfold plain? digits?
    rw [takeSign_append hsign hdigits]
    dsimp only
    rw [hnonempty, if_neg Bool.false_ne_true, hread]
    rfl
  · have hfew : ¬maxDigits < values.length := by omega
    unfold Whole.value
    dsimp only
    rw [if_neg hfew, valueOf_eq_ofDigits]
    simp only [decide_eq_true_eq]

/-- There is no blank space to remove around a number. -/
theorem Spells.strip_eq (h : Spells text count n) : strip text = text := by
  obtain ⟨sign, digits, values, rfl, hsign, hvalues, -, -⟩ := h
  have hdigits := (mapM_digitValue?_eq_some (mapM_digitValue?_eq_some_iff.2 hvalues)).2
  refine trimBy_eq_self fun c hc => ?_
  rcases List.mem_append.1 hc with hc | hc
  · have hsigns : ∀ sign ∈ [[], ['+'], ['-']], ∀ c ∈ sign, isBlank c = false := by
      simp [isBlank]
    exact hsigns sign hsign c hc
  · exact isBlank_of_digitValue? (hdigits c hc)

/-- A number in decimal, with a sign if it is negative, spells itself. -/
theorem spells_toString (n : ℤ) :
    Spells (toString n).toList (Nat.toDigits 10 n.natAbs).length n := by
  obtain ⟨values, hvalues, hvalue⟩ := exists_digits_toDigits n.natAbs
  have hforall := mapM_digitValue?_eq_some_iff.1 hvalues
  rw [valueOf_eq_ofDigits] at hvalue
  cases n with
  | ofNat n =>
    refine ⟨[], _, values, ?_, by decide, hforall, rfl, ?_⟩
    · exact Nat.toList_repr
    · rw [hvalue]
      rfl
  | negSucc n =>
    refine ⟨['-'], _, values, ?_, by decide, hforall, rfl, ?_⟩
    · show ("-" ++ (n + 1).repr).toList = _
      rw [String.toList_append, Nat.toList_repr]
      rfl
    · rw [hvalue]
      rfl

end Numeral

namespace Timestamp

variable {value : String}

/-- A number is read as seconds or milliseconds since 1970, by the number of its digits. -/
theorem read_of_spells (h : Numeral.Spells (strip value.toList) count n) (hcount : 0 < count)
    (hshort : count ≤ Numeral.maxDigits) :
    read value =
      (DateTime.ofInstant (n * unitMicros count)).mapError fun _ => .outOfRange := by
  obtain ⟨w, hplain, rfl, hvalue⟩ := Numeral.exists_plain?_of_spells h hcount hshort
  unfold read
  dsimp only
  rw [hplain]
  dsimp only
  unfold ofWhole
  rw [hvalue]

theorem readsAs_of_spells (h : Numeral.Spells (strip value.toList) count n) (hcount : 0 < count)
    (hshort : count ≤ Numeral.maxDigits) :
    ReadsAs value (if count ≤ 12 then 1000000 * n else 1000 * n) := by
  refine readsAs_of_read_eq ?_
  rw [read_of_spells h hcount hshort]
  unfold unitMicros millisecondDigits secondMicros
  split_ifs with hmillis hseconds
  · omega
  · rw [mul_comm]
    rfl
  · rw [mul_comm]
    rfl
  · omega

/-- A number in decimal is read as seconds or milliseconds by the number of its digits. -/
theorem readsAs_toString (hshort : (Nat.toDigits 10 n.natAbs).length ≤ Numeral.maxDigits) :
    ReadsAs (toString n)
      (if (Nat.toDigits 10 n.natAbs).length ≤ 12 then 1000000 * n else 1000 * n) := by
  have hspells := Numeral.spells_toString n
  refine readsAs_of_spells ?_ (List.length_pos_iff.2 Nat.toDigits_ne_nil) hshort
  rwa [hspells.strip_eq]

/-- An instant on the calendar has at most 18 digits in microseconds, and fewer in larger units. -/
theorem length_toDigits_le (k : ℕ) (hk : k < 18) (h : DateTime.OnCalendar (10 ^ k * n)) :
    (Nat.toDigits 10 n.natAbs).length ≤ 18 - k := by
  have hmicros : (10 ^ k * n).natAbs < 10 ^ 18 := by
    obtain ⟨hlower, hupper⟩ := DateTime.onCalendar_iff.1 h
    unfold epochWall at hlower hupper
    unfold wallLimit at hupper
    generalize 10 ^ k * n = micros at hlower hupper
    omega
  have hsplit : 10 ^ k * n.natAbs < 10 ^ k * 10 ^ (18 - k) := by
    rwa [← pow_add, Nat.add_sub_cancel' hk.le, ← Int.natAbs_natCast (10 ^ k), Nat.cast_pow,
      Nat.cast_ofNat, ← Int.natAbs_mul]
  rw [Nat.length_toDigits_le_iff (by decide) (by omega)]
  exact Nat.lt_of_mul_lt_mul_left hsplit

/-- A time in seconds on the calendar has at most twelve digits, and it is read as seconds. -/
theorem exists_read_seconds (h : DateTime.OnCalendar (1000000 * n)) :
    ∃ t, read (toString n) = .ok t ∧ t.offset = some .utc ∧ t.instant = 1000000 * n := by
  have hfew : (Nat.toDigits 10 n.natAbs).length ≤ 12 := length_toDigits_le 6 (by decide) h
  have hreads := readsAs_toString (hfew.trans (by decide))
  rw [if_pos hfew] at hreads
  exact hreads.1 h

theorem exists_read_milliseconds (h : DateTime.OnCalendar (1000 * n))
    (hmany : 13 ≤ (Nat.toDigits 10 n.natAbs).length) :
    ∃ t, read (toString n) = .ok t ∧ t.offset = some .utc ∧ t.instant = 1000 * n := by
  have hshort : (Nat.toDigits 10 n.natAbs).length ≤ 15 := length_toDigits_le 3 (by decide) h
  have hreads := readsAs_toString (hshort.trans (by decide))
  rw [if_neg (by omega)] at hreads
  exact hreads.1 h

/-- What the number of digits decides: up to twelve count seconds, more count milliseconds, whatever
the script, the sign and the zeros in front; what is not on the calendar is out of range. So a time
on the calendar reads alike in seconds and in milliseconds, if these take thirteen digits. -/
theorem read_whole_number :
    (∀ (value : String) (count : ℕ) (n : ℤ), Numeral.Spells (strip value.toList) count n →
        1 ≤ count → count ≤ 4300 →
          ReadsAs value (if count ≤ 12 then 1000000 * n else 1000 * n)) ∧
      ∀ s : ℤ, DateTime.OnCalendar (1000000 * s) →
        13 ≤ (Nat.toDigits 10 (1000 * s).natAbs).length →
          ∃ t, read (toString s) = .ok t ∧ read (toString (1000 * s)) = .ok t ∧
            t.instant = 1000000 * s := by
  refine ⟨fun value count n => readsAs_of_spells, fun s hon hmany => ?_⟩
  have hsame : 1000 * (1000 * s) = 1000000 * s := by ring
  obtain ⟨t, ht, hutc, hinstant⟩ := exists_read_seconds hon
  obtain ⟨u, hu, hutc', hinstant'⟩ := exists_read_milliseconds (hsame.symm ▸ hon) hmany
  have htu : t = u :=
    DateTime.eq_of_instant_eq (hutc.trans hutc'.symm)
      (hinstant.trans (hsame.symm.trans hinstant'.symm))
  exact ⟨t, ht, htu ▸ hu, hinstant⟩

/-- Thirteen digits of two scripts behind a sign count milliseconds, although the number is small;
twelve nines are seconds beyond the calendar; and a time in 2024 in both units. -/
theorem read_whole_number_samples :
    (∃ t, read "\u2003-00000000000\u0663\u0660\n" = .ok t ∧ t.offset = some .utc ∧
        t.instant = -30000) ∧
      read "+999999999999" = .error .outOfRange ∧
      ∃ t, read "1704110400" = .ok t ∧ read "1704110400000" = .ok t ∧
        t.instant = 1704110400000000 := by
  obtain ⟨hreads, hboth⟩ := read_whole_number
  have hsmall : Numeral.Spells (strip "\u2003-00000000000\u0663\u0660\n".toList) 13 (-30) :=
    ⟨['-'], List.replicate 11 '0' ++ ['\u0663', '\u0660'], List.replicate 11 0 ++ [3, 0],
      by decide, by decide, by decide, rfl, by decide⟩
  have hlarge : Numeral.Spells (strip "+999999999999".toList) 12 999999999999 :=
    ⟨['+'], List.replicate 12 '9', List.replicate 12 9, by decide, by decide, by decide, rfl,
      by decide⟩
  exact ⟨(hreads _ 13 (-30) hsmall (by decide) (by decide)).1 (by decide),
    (hreads _ 12 999999999999 hlarge (by decide) (by decide)).2 (by decide),
    hboth 1704110400 (by decide) (by decide)⟩

end Timestamp

end WebhookAuth
