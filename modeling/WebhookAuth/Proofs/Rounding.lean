import Mathlib.Data.Int.Log
import Mathlib.Data.Rat.Floor
import Mathlib.Tactic
import WebhookAuth.Time.Duration

/-!
# Rounding to binary64 numbers

What the rounding of fractions does to the numbers that they stand for (`Ratio.value_nearest`). The
result is a binary64 number (`Rounding.representable_nearest`), and none is nearer
(`Rounding.abs_nearest_sub_le`). All else follows from these two facts: binary64 numbers stay as
they are, rounding is monotone (`Rounding.nearest_mono`), and the error is at most half a unit of
any place down to which a number has no more than 53 bits (`Rounding.abs_nearest_sub_le_half`).
-/

namespace WebhookAuth

namespace Rounding

/-- The whole number nearest to a number; a half goes to the even neighbour. -/
def toEven (v : ℚ) : ℤ :=
  if 2 * Int.fract v < 1 then ⌊v⌋
  else if 1 < 2 * Int.fract v then ⌊v⌋ + 1
  else ⌊v⌋ + ⌊v⌋ % 2

/-- The exponent of the last place of the binary64 numbers around a number. -/
def lastPlace (v : ℚ) : ℤ := max (Int.log 2 |v| - 52) (-1074)

/-- The binary64 number nearest to a number, as if its exponent had no upper bound. -/
def nearest (v : ℚ) : ℚ := toEven (v / 2 ^ lastPlace v) * 2 ^ lastPlace v

/-- A binary64 number, as if its exponent had no upper bound. -/
def Representable (f : ℚ) : Prop :=
  ∃ m e : ℤ, |m| ≤ 2 ^ 53 ∧ -1074 ≤ e ∧ f = m * 2 ^ e

variable {v w f : ℚ} {n : ℕ} {e : ℤ}

/-! ### Whole numbers -/

theorem abs_toEven_sub_le (v : ℚ) : |(toEven v : ℚ) - v| ≤ 1 / 2 := by
  have hsplit := Int.floor_add_fract v
  have hnonneg := Int.fract_nonneg v
  have hlt := Int.fract_lt_one v
  unfold toEven
  split_ifs with hbelow habove
  · rw [abs_le]
    constructor <;> linarith
  · push_cast
    rw [abs_le]
    constructor <;> linarith
  · rcases Int.emod_two_eq_zero_or_one ⌊v⌋ with heven | hodd
    · rw [heven, abs_le]
      push_cast
      constructor <;> linarith
    · rw [hodd, abs_le]
      push_cast
      constructor <;> linarith

/-- No whole number is nearer. -/
theorem abs_toEven_sub_le_abs (v : ℚ) (k : ℤ) : |(toEven v : ℚ) - v| ≤ |(k : ℚ) - v| := by
  rcases eq_or_ne k (toEven v) with rfl | hk
  · exact le_rfl
  have hapart : (1 : ℚ) ≤ |(k : ℚ) - toEven v| := by
    exact_mod_cast Int.one_le_abs (sub_ne_zero.2 hk)
  have htriangle := abs_sub_le (k : ℚ) v (toEven v)
  have herror := abs_toEven_sub_le v
  rw [abs_sub_comm v] at htriangle
  linarith

/-- To go to the nearest of some numbers is monotone: two numbers with results in the other order
would both lie in the middle between these. -/
theorem mono_of_abs_sub_le {round : ℚ → ℚ}
    (h : ∀ v w, |round v - v| ≤ |round w - v|) : Monotone round := by
  intro v w hvw
  by_contra! hlt
  have hv := h v w
  have hw := h w v
  have habove : round v + round w ≤ 2 * v := by
    by_contra! hfar
    rw [abs_of_pos (by linarith : 0 < round v - v)] at hv
    rcases abs_cases (round w - v) with ⟨habs, -⟩ | ⟨habs, -⟩
    · linarith
    · linarith
  have hbelow : 2 * w ≤ round v + round w := by
    by_contra! hfar
    rw [abs_of_neg (by linarith : round w - w < 0)] at hw
    rcases abs_cases (round v - w) with ⟨habs, -⟩ | ⟨habs, -⟩
    · linarith
    · linarith
  have heq : v = w := by linarith
  rw [heq] at hlt
  exact lt_irrefl _ hlt

theorem toEven_mono : Monotone toEven := fun v w hvw => by
  exact_mod_cast mono_of_abs_sub_le (fun v w => abs_toEven_sub_le_abs v (toEven w)) hvw

@[simp] theorem toEven_intCast (k : ℤ) : toEven k = k := by
  have h := abs_toEven_sub_le_abs k k
  rw [sub_self, abs_zero, abs_nonpos_iff, sub_eq_zero] at h
  exact_mod_cast h

/-- Rounding to whole numbers does not pass over one. -/
theorem abs_toEven_le (h : |v| ≤ n) : |toEven v| ≤ n := by
  obtain ⟨hlower, hupper⟩ := abs_le.1 h
  have hlow : toEven (-n : ℤ) ≤ toEven v := toEven_mono (by push_cast; exact hlower)
  have hhigh : toEven v ≤ toEven (n : ℤ) := toEven_mono (by push_cast; exact hupper)
  rw [toEven_intCast] at hlow hhigh
  exact abs_le.2 ⟨hlow, hhigh⟩

/-- One of two opposite numbers is as near as any number between them. -/
theorem abs_sub_le_or_of_abs_le {b : ℚ} (hf : |f| ≤ b) (hb : b ≤ |v|) :
    |b - v| ≤ |f - v| ∨ |-b - v| ≤ |f - v| := by
  obtain ⟨hlower, hupper⟩ := abs_le.1 hf
  rcases le_total 0 v with hpos | hneg
  · rw [abs_of_nonneg hpos] at hb
    left
    rw [abs_of_nonpos (by linarith), abs_of_nonpos (by linarith)]
    linarith
  · rw [abs_of_nonpos hneg] at hb
    right
    rw [abs_of_nonneg (by linarith), abs_of_nonneg (by linarith)]
    linarith

/-! ### Multiples of a power of two -/

theorem two_zpow_pos (e : ℤ) : (0 : ℚ) < 2 ^ e := zpow_pos two_pos e

theorem abs_scaled (v : ℚ) (e k : ℤ) :
    |(k : ℚ) * 2 ^ e - v| = |(k : ℚ) - v / 2 ^ e| * 2 ^ e := by
  have hpos := two_zpow_pos e
  rw [← abs_of_pos hpos, ← abs_mul, abs_of_pos hpos, sub_mul, div_mul_cancel₀ _ hpos.ne']

/-- No multiple of a power of two is nearer than the one that the quotient is rounded to. -/
theorem abs_toEven_mul_sub_le (v : ℚ) (e k : ℤ) :
    |(toEven (v / 2 ^ e) : ℚ) * 2 ^ e - v| ≤ |(k : ℚ) * 2 ^ e - v| := by
  rw [abs_scaled, abs_scaled]
  exact mul_le_mul_of_nonneg_right (abs_toEven_sub_le_abs _ _) (two_zpow_pos e).le

theorem abs_toEven_mul_sub_le_half (v : ℚ) (e : ℤ) :
    |(toEven (v / 2 ^ e) : ℚ) * 2 ^ e - v| ≤ 2 ^ e / 2 := by
  rw [abs_scaled]
  have := mul_le_mul_of_nonneg_right (abs_toEven_sub_le (v / 2 ^ e)) (two_zpow_pos e).le
  linarith

/-- A multiple with up to 53 bits is representable. -/
theorem representable_toEven_mul (he : -1074 ≤ e) (h : |v| ≤ 2 ^ 53 * 2 ^ e) :
    Representable (toEven (v / 2 ^ e) * 2 ^ e) := by
  refine ⟨toEven (v / 2 ^ e), e, ?_, he, rfl⟩
  have hpos := two_zpow_pos e
  have hquotient : |v / 2 ^ e| ≤ ((2 ^ 53 : ℕ) : ℚ) := by
    rw [abs_div, abs_of_pos hpos, div_le_iff₀ hpos]
    exact_mod_cast h
  exact_mod_cast abs_toEven_le hquotient

theorem log_eq_of_bounds {r : ℚ} {k : ℤ} (hlower : 2 ^ k ≤ r) (hupper : r < 2 ^ (k + 1)) :
    Int.log 2 r = k := by
  have hpos : 0 < r := (two_zpow_pos k).trans_le hlower
  have hle : k ≤ Int.log 2 r :=
    (Int.zpow_le_iff_le_log Nat.one_lt_two hpos).1 (by exact_mod_cast hlower)
  have hlt : Int.log 2 r < k + 1 :=
    (Int.lt_zpow_iff_log_lt Nat.one_lt_two hpos).1 (by exact_mod_cast hupper)
  omega

theorem two_zpow_log2_bounds {n : ℕ} (h : n ≠ 0) :
    (2 : ℚ) ^ (n.log2 : ℤ) ≤ n ∧ (n : ℚ) < 2 ^ ((n.log2 : ℤ) + 1) := by
  constructor
  · exact_mod_cast Nat.log2_self_le h
  · exact_mod_cast Nat.lt_log2_self

/-! ### Binary64 numbers -/

theorem representable_intCast {k : ℤ} (h : |k| ≤ 2 ^ 53) : Representable k :=
  ⟨k, 0, h, by norm_num, by simp⟩

theorem two_zpow_le_abs (hv : v ≠ 0) : 2 ^ Int.log 2 |v| ≤ |v| := by
  exact_mod_cast Int.zpow_log_le_self Nat.one_lt_two (abs_pos.2 hv)

/-- A number has at most 53 bits before its last place. -/
theorem abs_le_lastPlace (v : ℚ) : |v| ≤ 2 ^ 53 * 2 ^ lastPlace v := by
  have hlog : |v| < 2 ^ (Int.log 2 |v| + 1) := by
    exact_mod_cast Int.lt_zpow_succ_log_self Nat.one_lt_two |v|
  have hplace : Int.log 2 |v| + 1 ≤ 53 + lastPlace v := by
    have := le_max_left (Int.log 2 |v| - 52) (-1074)
    unfold lastPlace
    omega
  calc |v| ≤ 2 ^ (Int.log 2 |v| + 1) := hlog.le
    _ ≤ 2 ^ (53 + lastPlace v) := zpow_le_zpow_right₀ one_le_two hplace
    _ = 2 ^ 53 * 2 ^ lastPlace v := by rw [zpow_add₀ two_ne_zero]; norm_cast

/-- It has 53 bits, unless the last place is the lowest of all. -/
theorem lastPlace_le_abs (hv : v ≠ 0) (h : -1074 < lastPlace v) :
    2 ^ 52 * 2 ^ lastPlace v ≤ |v| := by
  have hplace : lastPlace v = Int.log 2 |v| - 52 := by
    unfold lastPlace at h ⊢
    omega
  calc (2 : ℚ) ^ 52 * 2 ^ lastPlace v = 2 ^ Int.log 2 |v| := by
        rw [hplace, zpow_sub₀ two_ne_zero]
        norm_cast
        field_simp
    _ ≤ |v| := two_zpow_le_abs hv

theorem representable_nearest (v : ℚ) : Representable (nearest v) :=
  representable_toEven_mul (le_max_right _ _) (abs_le_lastPlace v)

@[simp] theorem nearest_zero : nearest 0 = 0 := by
  simp [nearest, toEven]

/-- A binary64 number with a smaller exponent is no nearer: it does not reach the least number with
this last place, which is a multiple of it. -/
theorem abs_nearest_sub_le_of_finer {m : ℤ} (hv : v ≠ 0) (hm : |m| ≤ 2 ^ 53)
    (he : -1074 ≤ e) (hfiner : e < lastPlace v) : |nearest v - v| ≤ |(m : ℚ) * 2 ^ e - v| := by
  have hbelow : |(m : ℚ) * 2 ^ e| ≤ 2 ^ 52 * 2 ^ lastPlace v := by
    have hm' : |(m : ℚ)| ≤ 2 ^ 53 := by exact_mod_cast hm
    calc |(m : ℚ) * 2 ^ e| = |(m : ℚ)| * 2 ^ e := by rw [abs_mul, abs_of_pos (two_zpow_pos e)]
      _ ≤ 2 ^ 53 * 2 ^ e := mul_le_mul_of_nonneg_right hm' (two_zpow_pos e).le
      _ = 2 ^ 52 * 2 ^ (e + 1) := by rw [zpow_add_one₀ two_ne_zero]; ring
      _ ≤ 2 ^ 52 * 2 ^ lastPlace v := by
        gcongr
        · exact one_le_two
        · omega
  rcases abs_sub_le_or_of_abs_le hbelow (lastPlace_le_abs hv (by omega)) with hnearer | hnearer
  · refine le_trans ?_ hnearer
    have h := abs_toEven_mul_sub_le v (lastPlace v) (2 ^ 52)
    exact_mod_cast h
  · refine le_trans ?_ hnearer
    have h := abs_toEven_mul_sub_le v (lastPlace v) (-2 ^ 52)
    push_cast [neg_mul] at h
    exact_mod_cast h

/-- No binary64 number is nearer than the one that is rounded to. -/
theorem abs_nearest_sub_le (hf : Representable f) (v : ℚ) : |nearest v - v| ≤ |f - v| := by
  obtain ⟨m, e, hm, he, rfl⟩ := hf
  rcases eq_or_ne v 0 with rfl | hv
  · rw [nearest_zero, sub_self, abs_zero]
    exact abs_nonneg _
  rcases lt_or_ge e (lastPlace v) with hfiner | hcoarser
  · exact abs_nearest_sub_le_of_finer hv hm he hfiner
  · have hmultiple : (m : ℚ) * 2 ^ e =
        (m * 2 ^ (e - lastPlace v).toNat : ℤ) * 2 ^ lastPlace v := by
      obtain ⟨d, hd⟩ := Int.le.dest hcoarser
      rw [← hd, add_sub_cancel_left, Int.toNat_natCast, zpow_add₀ two_ne_zero, zpow_natCast]
      push_cast
      ring
    rw [hmultiple]
    exact abs_toEven_mul_sub_le v (lastPlace v) _

theorem nearest_of_representable (hf : Representable f) : nearest f = f := by
  have h := abs_nearest_sub_le hf f
  rw [sub_self, abs_zero, abs_nonpos_iff] at h
  exact sub_eq_zero.1 h

/-- Rounding is monotone. -/
theorem nearest_mono : Monotone nearest :=
  mono_of_abs_sub_le fun v w => abs_nearest_sub_le (representable_nearest w) v

/-- Rounding does not cross a whole number of up to 53 bits. -/
theorem intCast_le_nearest {k : ℤ} (hk : |k| ≤ 2 ^ 53) (h : k ≤ v) : k ≤ nearest v := by
  have hmono := nearest_mono h
  rwa [nearest_of_representable (representable_intCast hk)] at hmono

theorem nearest_le_intCast {k : ℤ} (hk : |k| ≤ 2 ^ 53) (h : v ≤ k) : nearest v ≤ k := by
  have hmono := nearest_mono h
  rwa [nearest_of_representable (representable_intCast hk)] at hmono

/-- The error is at most half a unit of any place down to which a number has no more than 53
bits. -/
theorem abs_nearest_sub_le_half (he : -1074 ≤ e) (h : |v| ≤ 2 ^ 53 * 2 ^ e) :
    |nearest v - v| ≤ 2 ^ e / 2 :=
  (abs_nearest_sub_le (representable_toEven_mul he h) v).trans (abs_toEven_mul_sub_le_half v e)

/-- Numbers below half the least binary64 number vanish. -/
theorem nearest_eq_zero (h : |v| < 2 ^ (-1075 : ℤ)) : nearest v = 0 := by
  have hhalf : (2 : ℚ) ^ (-1074 : ℤ) = 2 * 2 ^ (-1075 : ℤ) := by
    rw [← zpow_one_add₀ two_ne_zero]
    norm_num
  have hbound : |v| ≤ 2 ^ 53 * 2 ^ (-1074 : ℤ) := by
    have := two_zpow_pos (-1075)
    linarith
  have herror := abs_nearest_sub_le_half le_rfl hbound
  have hsmall : |nearest v| < 2 ^ (-1074 : ℤ) := by
    have := abs_sub_le (nearest v) v 0
    rw [sub_zero, sub_zero] at this
    linarith
  -- it is a whole number of units of a place that is not lower than the lowest
  have hplace : (2 : ℚ) ^ (-1074 : ℤ) ≤ 2 ^ lastPlace v :=
    zpow_le_zpow_right₀ one_le_two (le_max_right _ _)
  unfold nearest at hsmall ⊢
  rw [abs_mul, abs_of_pos (two_zpow_pos _)] at hsmall
  have hunits : |(toEven (v / 2 ^ lastPlace v) : ℚ)| < 1 := by
    by_contra! hone
    have := mul_le_mul_of_nonneg_right hone (two_zpow_pos (lastPlace v)).le
    linarith
  have hzero : toEven (v / 2 ^ lastPlace v) = 0 := by
    exact Int.abs_lt_one_iff.1 (by exact_mod_cast hunits)
  rw [hzero, Int.cast_zero, zero_mul]

/-- Numbers from the first power of two that binary64 does not reach stay there. -/
theorem two_zpow_le_abs_nearest (h : 2 ^ (1024 : ℤ) ≤ |v|) : 2 ^ (1024 : ℤ) ≤ |nearest v| := by
  have hpower : Representable (2 ^ (1024 : ℤ)) := ⟨1, 1024, by norm_num, by norm_num, by simp⟩
  have hopposite : Representable (-2 ^ (1024 : ℤ)) :=
    ⟨-1, 1024, by norm_num, by norm_num, by simp⟩
  rcases le_abs.1 h with h | h
  · have hmono := nearest_mono h
    rw [nearest_of_representable hpower] at hmono
    exact hmono.trans (le_abs_self _)
  · have hmono := nearest_mono (le_neg.1 h)
    rw [nearest_of_representable hopposite] at hmono
    exact (le_neg.1 hmono).trans (neg_le_abs _)

end Rounding

namespace Ratio

open Rounding

/-- The number that a fraction stands for. -/
def value (x : Ratio) : ℚ := x.num / x.den

variable {x : Ratio}

theorem cast_den_pos (x : Ratio) : (0 : ℚ) < x.den := by exact_mod_cast x.den_pos

@[simp] theorem value_ofInt (n : ℤ) : (ofInt n).value = n := by simp [value, ofInt]

@[simp] theorem value_scale (x : Ratio) (n : ℤ) : (x.scale n).value = x.value * n := by
  simp only [value, scale]
  push_cast
  ring

@[simp] theorem value_shift (x : Ratio) (n : ℤ) : (x.shift n).value = x.value + n := by
  have hden := x.cast_den_pos.ne'
  simp only [value, shift]
  push_cast
  field_simp

theorem value_fractional (x : Ratio) : x.fractional.value = x.value - x.truncate := by
  have hsplit : (x.num : ℚ) = x.den * x.truncate + x.fractional.num := by
    exact_mod_cast (Int.mul_tdiv_add_tmod x.num x.den).symm
  have hden := x.cast_den_pos.ne'
  rw [value, value, hsplit]
  show (x.fractional.num : ℚ) / x.den = _
  field_simp
  ring

theorem cast_twoPow (n : ℕ) : (twoPow n : ℚ) = 2 ^ n := by
  show ((2 ^ n : ℕ) : ℚ) = 2 ^ n
  push_cast
  rfl

@[simp] theorem value_scaleTwo (x : Ratio) (e : ℤ) : (x.scaleTwo e).value = x.value * 2 ^ e := by
  unfold scaleTwo
  split_ifs with he
  · have hpow : (2 : ℚ) ^ e = 2 ^ e.toNat := by rw [← zpow_natCast, Int.toNat_of_nonneg he]
    simp only [value, Int.cast_mul, Int.cast_natCast, cast_twoPow, hpow]
    ring
  · have hpow : (2 : ℚ) ^ e = (2 ^ (-e).toNat)⁻¹ := by
      rw [← zpow_natCast, Int.toNat_of_nonneg (by omega), ← zpow_neg, neg_neg]
    simp only [value, Nat.cast_mul, cast_twoPow, hpow]
    ring

theorem floor_value (x : Ratio) : ⌊x.value⌋ = x.num / x.den :=
  Rat.floor_intCast_div_natCast x.num x.den

theorem fract_value (x : Ratio) : Int.fract x.value = ((x.num % x.den : ℤ) : ℚ) / x.den := by
  have hden := x.cast_den_pos.ne'
  rw [Int.fract, floor_value, eq_div_iff hden, sub_mul, value, div_mul_cancel₀ _ hden]
  exact_mod_cast (by rw [Int.emod_def, mul_comm] : x.num - x.num / x.den * x.den = x.num % x.den)

theorem roundHalfEven_eq (x : Ratio) : x.roundHalfEven = toEven x.value := by
  have hden := x.cast_den_pos
  have hbelow : 2 * (x.num % x.den) < x.den ↔ 2 * Int.fract x.value < 1 := by
    rw [fract_value, ← mul_div_assoc, div_lt_one hden]
    exact_mod_cast Iff.rfl
  have habove : (x.den : ℤ) < 2 * (x.num % x.den) ↔ 1 < 2 * Int.fract x.value := by
    rw [fract_value, ← mul_div_assoc, one_lt_div hden]
    exact_mod_cast Iff.rfl
  unfold roundHalfEven toEven
  simp only [hbelow, habove, floor_value]

theorem abs_value (x : Ratio) : |x.value| = x.num.natAbs / x.den := by
  rw [value, abs_div, abs_of_pos x.cast_den_pos, ← Int.cast_abs, Int.abs_eq_natAbs,
    Int.cast_natCast]

theorem isFinite_iff (x : Ratio) : x.isFinite = true ↔ |x.value| < 2 ^ (1024 : ℤ) := by
  unfold isFinite
  rw [decide_eq_true_iff, abs_value, div_lt_iff₀ x.cast_den_pos, mul_comm, ← Nat.cast_lt (α := ℚ),
    Nat.cast_mul, cast_twoPow]
  norm_cast

/-- The order is found from the lengths of numerator and denominator, up to one. -/
theorem order_eq (h : x.num ≠ 0) : x.order = Int.log 2 |x.value| := by
  obtain ⟨hnum, hnum'⟩ := two_zpow_log2_bounds (Int.natAbs_ne_zero.2 h)
  obtain ⟨hden, hden'⟩ := two_zpow_log2_bounds x.den_pos.ne'
  set guess : ℤ := (x.num.natAbs.log2 : ℤ) - x.den.log2 with hguess
  have hupper : |x.value| < 2 ^ (guess + 1) := by
    rw [abs_value, div_lt_iff₀ x.cast_den_pos]
    calc (x.num.natAbs : ℚ) < 2 ^ ((x.num.natAbs.log2 : ℤ) + 1) := hnum'
      _ = 2 ^ (guess + 1) * 2 ^ (x.den.log2 : ℤ) := by
        rw [← zpow_add₀ two_ne_zero, hguess]
        congr 1
        ring
      _ ≤ 2 ^ (guess + 1) * x.den := by gcongr
  have hlower : 2 ^ (guess - 1) ≤ |x.value| := by
    rw [abs_value, le_div_iff₀ x.cast_den_pos]
    calc (2 : ℚ) ^ (guess - 1) * x.den
        ≤ 2 ^ (guess - 1) * 2 ^ ((x.den.log2 : ℤ) + 1) := by gcongr
      _ = 2 ^ (x.num.natAbs.log2 : ℤ) := by
        rw [← zpow_add₀ two_ne_zero, hguess]
        congr 1
        ring
      _ ≤ x.num.natAbs := hnum
  have hreaches : (x.scaleTwo (-guess)).den ≤ (x.scaleTwo (-guess)).num.natAbs ↔
      2 ^ guess ≤ |x.value| := by
    have hscaled := (x.scaleTwo (-guess)).abs_value
    rw [value_scaleTwo, abs_mul, abs_of_pos (two_zpow_pos _), zpow_neg, ← div_eq_mul_inv]
      at hscaled
    rw [← one_le_div (two_zpow_pos guess), hscaled, one_le_div (cast_den_pos _), Nat.cast_le]
  unfold order
  simp only [← hguess, hreaches]
  split_ifs with hreached
  · exact (log_eq_of_bounds hreached hupper).symm
  · refine (log_eq_of_bounds hlower ?_).symm
    rw [sub_add_cancel]
    exact not_le.1 hreached

/-- Rounding a fraction rounds the number that it stands for. -/
@[simp] theorem value_nearest (x : Ratio) : x.nearest.value = Rounding.nearest x.value := by
  unfold nearest
  rw [value_scaleTwo, value_ofInt, roundHalfEven_eq, value_scaleTwo]
  rcases eq_or_ne x.num 0 with hzero | hnum
  · have hvalue : x.value = 0 := by rw [value, hzero, Int.cast_zero, zero_div]
    rw [hvalue, zero_mul, nearest_zero]
    simp [toEven]
  · have hplace : x.lastPlace = Rounding.lastPlace x.value := by
      rw [lastPlace, Rounding.lastPlace, order_eq hnum]
    rw [hplace, zpow_neg, ← div_eq_mul_inv]
    rfl

/-- The whole part of a number that is not negative. -/
theorem truncate_of_nonneg (h : 0 ≤ x.value) : x.truncate = ⌊x.value⌋ := by
  have hnum : 0 ≤ x.num := by
    rw [value, le_div_iff₀ x.cast_den_pos, zero_mul] at h
    exact_mod_cast h
  rw [truncate, floor_value, Int.tdiv_eq_ediv_of_nonneg hnum]

/-- The whole part of a number that is not positive. -/
theorem truncate_of_nonpos (h : x.value ≤ 0) : x.truncate = ⌈x.value⌉ := by
  have hnum : 0 ≤ -x.num := by
    rw [value, div_le_iff₀ x.cast_den_pos, zero_mul] at h
    have : x.num ≤ 0 := by exact_mod_cast h
    omega
  have hopposite : ⌊-x.value⌋ = -x.num / x.den := by
    rw [value, ← neg_div, ← Int.cast_neg, Rat.floor_intCast_div_natCast]
  rw [Int.floor_neg] at hopposite
  rw [truncate, ← neg_neg x.num, Int.neg_tdiv, Int.tdiv_eq_ediv_of_nonneg hnum, ← hopposite,
    neg_neg]

/-- Cutting off the fraction is monotone. -/
theorem truncate_mono {x y : Ratio} (h : x.value ≤ y.value) : x.truncate ≤ y.truncate := by
  rcases le_total 0 x.value with hx | hx
  · rw [truncate_of_nonneg hx, truncate_of_nonneg (hx.trans h)]
    exact Int.floor_le_floor h
  rcases le_total 0 y.value with hy | hy
  · rw [truncate_of_nonpos hx, truncate_of_nonneg hy]
    exact (Int.ceil_nonpos.2 hx).trans (Int.floor_nonneg.2 hy)
  · rw [truncate_of_nonpos hx, truncate_of_nonpos hy]
    exact Int.ceil_le_ceil h

end Ratio

/-- The seconds of a span are rounded once. -/
theorem Duration.value_toSeconds (micros : ℤ) :
    (Duration.toSeconds micros).value = Rounding.nearest (micros / 1000000) := by
  rw [Duration.toSeconds, Ratio.value_nearest]
  simp [Ratio.value, secondMicros]

end WebhookAuth
