import Mathlib.Tactic
import WebhookAuth.Proofs.Rounding
import WebhookAuth.Proofs.UnixTime

/-!
# Durations in seconds

A numeral is read as the binary64 number nearest to its decimal fraction
(`Numeral.Decimal.isNearest_nearest`), and a number of seconds as a duration in whole microseconds
(`Duration.microsOf`), which is off by little more than half a microsecond
(`Duration.abs_microsOf_sub_le`). What a text spells is told by these alone
(`Duration.ofSecondsText?_eq_some_iff`).
-/

namespace WebhookAuth

/-! ### Decimal fractions -/

theorem Text.digitValue?_lt {c : Char} {d : ℕ} (h : digitValue? c = some d) : d < 10 := by
  unfold digitValue? at h
  obtain ⟨z, hz, rfl⟩ := Option.map_eq_some_iff.1 h
  have hblock := List.find?_some hz
  simp only [Bool.and_eq_true, decide_eq_true_eq] at hblock
  omega

namespace Numeral

variable {text : List Char} {digits : List ℕ} {t : Decimal}

theorem lt_of_mem_optionalDigits? (h : optionalDigits? text = some digits) :
    ∀ d ∈ digits, d < 10 := by
  have hread := Text.mapM_digitValue?_eq_some_iff.1 h
  clear h
  induction hread with
  | nil => simp
  | cons hd _ ih => exact List.forall_mem_cons.2 ⟨Text.digitValue?_lt hd, ih⟩

/-- The digits of a decimal fraction are decimal. -/
theorem lt_of_mem_decimal? (h : decimal? text = some t) : ∀ d ∈ t.digits, d < 10 := by
  obtain ⟨ascii, -, hread⟩ := Option.bind_eq_some_iff.1 h
  unfold decimalAscii? at hread
  simp only [Option.bind_eq_bind, Option.bind_eq_some_iff, Option.pure_def, Option.some.injEq]
    at hread
  obtain ⟨whole, hwhole, fraction, hfraction, -, -, exponent, -, rfl⟩ := hread
  intro d hd
  rcases List.mem_append.1 hd with hd | hd
  · exact lt_of_mem_optionalDigits? hwhole d hd
  · exact lt_of_mem_optionalDigits? hfraction d hd

namespace Decimal

/-- The digits as a whole number, with the sign. -/
def mantissa (t : Decimal) : ℤ := if t.negative then -(valueOf t.digits : ℤ) else valueOf t.digits

/-- The number that a decimal fraction stands for. -/
def value (t : Decimal) : ℚ := t.mantissa * 10 ^ t.exponent

theorem ten_zpow_pos (e : ℤ) : (0 : ℚ) < 10 ^ e := zpow_pos (by norm_num) e

theorem abs_value (t : Decimal) : |t.value| = valueOf t.digits * 10 ^ t.exponent := by
  unfold value mantissa
  rw [abs_mul, abs_of_pos (ten_zpow_pos _)]
  split_ifs
  · rw [Int.cast_neg, abs_neg, Int.cast_natCast, Nat.abs_cast]
  · rw [Int.cast_natCast, Nat.abs_cast]

theorem valueOf_dropWhile (digits : List ℕ) :
    valueOf (digits.dropWhile (· == 0)) = valueOf digits := by
  induction digits with
  | nil => rfl
  | cons d digits ih =>
    by_cases hzero : d = 0
    · rw [List.dropWhile_cons_of_pos (by simp [hzero]), ih, hzero]
      rfl
    · rw [List.dropWhile_cons_of_neg (by simp [hzero])]

/-- Where the first digit other than zero stands bounds the number. -/
theorem abs_value_bounds (h : ∀ d ∈ t.digits, d < 10) {place : ℤ}
    (hplace : place = ((t.digits.dropWhile (· == 0)).length : ℤ) + t.exponent) :
    |t.value| < 10 ^ place ∧ (t.digits.dropWhile (· == 0) ≠ [] → 10 ^ (place - 1) ≤ |t.value|) := by
  have hpos := ten_zpow_pos t.exponent
  set digits := t.digits.dropWhile (· == 0) with hdigits
  rw [abs_value, ← valueOf_dropWhile, ← hdigits, hplace]
  constructor
  · have hlt : valueOf digits < 10 ^ digits.length := by
      rw [valueOf_eq_ofDigits, ← List.length_reverse]
      refine Nat.ofDigits_lt_base_pow_length (by norm_num) fun d hd => h d ?_
      exact (List.dropWhile_suffix _).subset (List.mem_reverse.1 hd)
    rw [zpow_add₀ (by norm_num), zpow_natCast]
    exact mul_lt_mul_of_pos_right (by exact_mod_cast hlt) hpos
  · intro hne
    have hfirst : digits.reverse.getLast (List.reverse_ne_nil_iff.2 hne) ≠ 0 := by
      rw [List.getLast_reverse]
      have := List.head_dropWhile_not (· == 0) hne
      simpa using this
    have hle : 10 ^ digits.length ≤ 10 * valueOf digits := by
      rw [valueOf_eq_ofDigits, ← List.length_reverse]
      exact Nat.pow_length_le_mul_ofDigits (List.reverse_ne_nil_iff.2 hne) hfirst
    have hle' : (10 : ℚ) ^ digits.length ≤ 10 * valueOf digits := by exact_mod_cast hle
    rw [zpow_sub_one₀ (by norm_num), zpow_add₀ (by norm_num), zpow_natCast]
    calc (10 : ℚ) ^ digits.length * 10 ^ t.exponent * 10⁻¹
        ≤ 10 * valueOf digits * 10 ^ t.exponent * 10⁻¹ := by gcongr
      _ = valueOf digits * 10 ^ t.exponent := by ring

theorem value_ofInt_mul_pow (m : ℤ) {e : ℤ} (he : 0 ≤ e) :
    (Ratio.ofInt (m * Nat.pow 10 e.toNat)).value = m * 10 ^ e := by
  obtain ⟨n, rfl⟩ := Int.eq_ofNat_of_zero_le he
  rw [Ratio.value_ofInt, Int.toNat_natCast, zpow_natCast, Nat.pow_eq]
  push_cast
  rfl

theorem value_div_pow (m : ℤ) {e : ℤ} (he : e < 0) (hpos : 0 < Nat.pow 10 (-e).toNat) :
    (Ratio.mk m (Nat.pow 10 (-e).toNat) hpos).value = m * 10 ^ e := by
  obtain ⟨n, hn⟩ := Int.eq_ofNat_of_zero_le (by omega : 0 ≤ -e)
  have hpower : (10 : ℚ) ^ e = (10 ^ n)⁻¹ := by
    rw [← neg_neg e, hn, zpow_neg, ← zpow_natCast]
  rw [hpower, ← div_eq_mul_inv]
  simp [Ratio.value, hn]

end Decimal

/-- The value is the binary64 number nearest to a number, or infinite if there is none. -/
def IsNearest (value : Binary64) (v : ℚ) : Prop :=
  (∃ x, value = .finite x ∧ x.value = Rounding.nearest v) ∨
    value = .infinite ∧ 2 ^ (1024 : ℤ) ≤ |Rounding.nearest v|

theorem isNearest_ofRatio (x : Ratio) : IsNearest (.ofRatio x) x.value := by
  unfold Binary64.ofRatio
  split_ifs with hfinite
  · exact .inl ⟨x.nearest, rfl, x.value_nearest⟩
  · rw [Ratio.isFinite_iff, Ratio.value_nearest, not_lt] at hfinite
    exact .inr ⟨rfl, hfinite⟩

theorem two_pow_le_ten_pow : (2 : ℚ) ^ 1075 ≤ 10 ^ 400 :=
  calc (2 : ℚ) ^ 1075 ≤ 2 ^ (3 * 400) := pow_le_pow_right₀ one_le_two (by norm_num)
    _ = 8 ^ 400 := by rw [pow_mul]; norm_num only
    _ ≤ 10 ^ 400 := pow_le_pow_left₀ (by norm_num) (by norm_num) 400

/-- A decimal fraction is read as the binary64 number nearest to it. -/
theorem Decimal.isNearest_nearest (h : ∀ d ∈ t.digits, d < 10) : IsNearest t.nearest t.value := by
  obtain ⟨hupper, hlower⟩ := abs_value_bounds h rfl
  have hmantissa : (if t.negative = true then -(valueOf t.digits : ℤ) else valueOf t.digits) =
      t.mantissa := rfl
  unfold nearest
  dsimp only
  rw [valueOf_dropWhile, hmantissa]
  split_ifs with hsmall hlarge hwhole
  · -- zero, or too small to be told from it
    refine .inl ⟨_, rfl, ?_⟩
    rw [Ratio.value_ofInt, Int.cast_zero, eq_comm]
    refine Rounding.nearest_eq_zero ?_
    rcases hsmall with hempty | hplace
    · rw [abs_value, ← valueOf_dropWhile, List.isEmpty_iff.1 hempty]
      simp [valueOf]
    · calc |t.value| < 10 ^ _ := hupper
        _ ≤ (10 : ℚ) ^ (-400 : ℤ) := zpow_le_zpow_right₀ (by norm_num) hplace.le
        _ ≤ 2 ^ (-1075 : ℤ) := by
          rw [zpow_neg, zpow_neg]
          exact inv_anti₀ (Rounding.two_zpow_pos _) (by exact_mod_cast two_pow_le_ten_pow)
  · have hne : t.digits.dropWhile (· == 0) ≠ [] := by
      rintro hempty
      exact hsmall (.inl (List.isEmpty_iff.2 hempty))
    refine .inr ⟨rfl, Rounding.two_zpow_le_abs_nearest ?_⟩
    calc (2 : ℚ) ^ (1024 : ℤ) ≤ 2 ^ (1075 : ℤ) := zpow_le_zpow_right₀ one_le_two (by norm_num)
      _ ≤ 10 ^ (400 : ℤ) := by exact_mod_cast two_pow_le_ten_pow
      _ ≤ 10 ^ _ := zpow_le_zpow_right₀ (by norm_num) (by omega)
      _ ≤ |t.value| := hlower hne
  · have hvalue := value_ofInt_mul_pow t.mantissa hwhole
    rw [value, ← hvalue]
    exact isNearest_ofRatio _
  · have hvalue := value_div_pow t.mantissa (not_le.1 hwhole) (Nat.pow_pos (by decide))
    rw [value, ← hvalue]
    exact isNearest_ofRatio _

end Numeral

/-! ### From seconds to microseconds -/

namespace Duration

open Rounding

variable {v : ℚ} {d : Duration} {text : String}

/-- The whole part of a number, toward zero. -/
def wholePart (v : ℚ) : ℤ := if 0 ≤ v then ⌊v⌋ else ⌈v⌉

/-- The microseconds of a number of seconds, before they are rounded to whole ones: those of the
fraction are multiplied out in binary64. -/
def spread (v : ℚ) : ℚ := nearest ((v - wholePart v) * 1000000) + wholePart v * 1000000

/-- The whole microseconds of a number of seconds. -/
def microsOf (v : ℚ) : ℤ := toEven (spread v)

theorem truncate_eq_wholePart (x : Ratio) : x.truncate = wholePart x.value := by
  unfold wholePart
  split_ifs with h
  · exact Ratio.truncate_of_nonneg h
  · exact Ratio.truncate_of_nonpos (not_le.1 h).le

theorem ofSeconds_eq (x : Ratio) : ofSeconds x = ofMicros (microsOf x.value) := by
  unfold ofSeconds
  dsimp only
  rw [Ratio.roundHalfEven_eq, Ratio.value_shift, Ratio.value_nearest, Ratio.value_scale,
    Ratio.value_fractional, truncate_eq_wholePart]
  congr 2
  unfold spread secondMicros
  push_cast
  rfl

theorem abs_sub_wholePart_lt (v : ℚ) : |v - wholePart v| < 1 := by
  unfold wholePart
  rw [abs_lt]
  split_ifs
  · constructor <;> linarith [Int.floor_le v, Int.lt_floor_add_one v]
  · constructor <;> linarith [Int.le_ceil v, Int.ceil_lt_add_one v]

theorem abs_spread_sub_le (v : ℚ) : |spread v - v * 1000000| ≤ 1 / 2 ^ 34 := by
  have hfraction : |(v - wholePart v) * 1000000| ≤ 2 ^ 53 * 2 ^ (-33 : ℤ) := by
    have hpower : (2 : ℚ) ^ 53 * 2 ^ (-33 : ℤ) = 1048576 := by norm_num
    rw [hpower, abs_mul]
    norm_num
    linarith [abs_sub_wholePart_lt v]
  have herror := abs_nearest_sub_le_half (by norm_num) hfraction
  have hhalf : (2 : ℚ) ^ (-33 : ℤ) / 2 = 1 / 2 ^ 34 := by norm_num
  rw [hhalf] at herror
  have hsame : spread v - v * 1000000 =
      nearest ((v - wholePart v) * 1000000) - (v - wholePart v) * 1000000 := by
    unfold spread
    ring
  rwa [hsame]

/-- The duration is off by little more than the half microsecond of the last rounding. -/
theorem abs_microsOf_sub_le (v : ℚ) : |(microsOf v : ℚ) - v * 1000000| ≤ 1 / 2 + 1 / 2 ^ 34 :=
  calc |(microsOf v : ℚ) - v * 1000000|
      ≤ |(microsOf v : ℚ) - spread v| + |spread v - v * 1000000| := abs_sub_le _ _ _
    _ ≤ 1 / 2 + 1 / 2 ^ 34 := add_le_add (abs_toEven_sub_le _) (abs_spread_sub_le v)

/-! ### What a text spells -/

theorem toOption_ofMicros_eq_some_iff {n : ℤ} : (ofMicros n).toOption = some d ↔ d.micros = n := by
  obtain ⟨micros, hlower, hupper⟩ := d
  unfold ofMicros
  split_ifs with hrange
  · simp [Except.toOption, eq_comm]
  · simp only [Except.toOption, reduceCtorEq, false_iff]
    rintro rfl
    exact hrange ⟨hlower, hupper⟩

theorem finite?_of_named? {value : Binary64} (h : Numeral.named? text.toList = some value) :
    value.finite? = none := by
  unfold Numeral.named? at h
  dsimp only at h
  split_ifs at h
  · cases h
    rfl
  · cases h
    rfl

/-- No duration has as many microseconds as a number beyond binary64. -/
theorem micros_ne_microsOf (h : 2 ^ (1024 : ℤ) ≤ |v|) : d.micros ≠ microsOf v := by
  intro hmicros
  have hlarge : (2 : ℚ) ^ (100 : ℤ) ≤ |v| :=
    (zpow_le_zpow_right₀ one_le_two (by norm_num)).trans h
  have hlower : (-86399999913600000000 : ℚ) ≤ d.micros := by exact_mod_cast d.lower
  have hupper : (d.micros : ℚ) ≤ 86399999999999999999 := by exact_mod_cast d.upper
  obtain ⟨hbelow, habove⟩ := abs_le.1 (abs_microsOf_sub_le v)
  rw [← hmicros] at hbelow habove
  norm_num at hlarge hbelow habove
  rcases le_abs.1 hlarge with hv | hv
  · linarith
  · linarith

/-- A text is read as a duration just if it is a numeral, by itself and without a name, and the
duration has the microseconds of the binary64 number nearest to it; there is none with more than a
duration can have. -/
theorem ofSecondsText?_eq_some_iff :
    ofSecondsText? text = some d ↔ Numeral.named? text.toList = none ∧
      ∃ t, Numeral.decimal? text.toList = some t ∧ d.micros = microsOf (nearest t.value) := by
  have hread : ofSecondsText? text = (((Numeral.named? text.toList).or
      ((Numeral.decimal? text.toList).map Numeral.Decimal.nearest)).bind Binary64.finite?).bind
        fun x => (ofSeconds x).toOption := (Option.bind_assoc _ _ _).symm
  rw [hread]
  cases hnamed : Numeral.named? text.toList with
  | some value =>
    rw [Option.some_or, Option.bind_some, finite?_of_named? hnamed]
    simp
  | none =>
    rw [Option.none_or]
    cases hdecimal : Numeral.decimal? text.toList with
    | none => simp
    | some t =>
      simp only [Option.map_some, Option.bind_some, Option.some.injEq, true_and, exists_eq_left']
      rcases Numeral.Decimal.isNearest_nearest (Numeral.lt_of_mem_decimal? hdecimal) with
        ⟨x, hx, hvalue⟩ | ⟨hinfinite, hbeyond⟩
      · rw [hx, ← hvalue]
        show (ofSeconds x).toOption = some d ↔ _
        rw [ofSeconds_eq, toOption_ofMicros_eq_some_iff]
      · rw [hinfinite]
        exact iff_of_false (by simp [Binary64.finite?]) (micros_ne_microsOf hbeyond)

example : ofSecondsText? "nan" = none := by decide +kernel

example : ofSecondsText? " 1_0.5e1 " = some (.seconds 105) := by decide +kernel

example : ofSecondsText? "-1e-7" = some zero := by decide +kernel

end Duration

end WebhookAuth
