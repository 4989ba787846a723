import Mathlib.Tactic
import WebhookAuth.Timestamp

/-!
# Timestamps with too many digits

A whole number without blank space is a sign, if it has one, and decimal digits
(`Numeral.exists_plain?_iff`). The value of a timestamp header is refused for its digits just if it
is such a number with more digits than can be read (`Timestamp.read_eq_tooManyDigits_iff`).
-/

namespace WebhookAuth

open WebhookAuth.Text

variable {text : List Char} {count : ℕ}

theorem Text.mapM_digitValue?_eq_some {values : List ℕ} (h : text.mapM digitValue? = some values) :
    values.length = text.length ∧ ∀ c ∈ text, (digitValue? c).isSome := by
  induction text generalizing values with
  | nil =>
    cases h
    exact ⟨rfl, fun c hc => absurd hc List.not_mem_nil⟩
  | cons c text ih =>
    rw [List.mapM_cons] at h
    cases hc : digitValue? c with
    | none => rw [hc] at h; cases h
    | some value =>
      cases hrest : text.mapM digitValue? with
      | none => rw [hc, hrest] at h; cases h
      | some rest =>
        rw [hc, hrest] at h
        cases h
        obtain ⟨hlength, hdigits⟩ := ih hrest
        refine ⟨by rw [List.length_cons, List.length_cons, hlength], ?_⟩
        rw [List.forall_mem_cons]
        exact ⟨by rw [hc]; rfl, hdigits⟩

theorem Text.exists_mapM_digitValue? (h : ∀ c ∈ text, (digitValue? c).isSome) :
    ∃ values, text.mapM digitValue? = some values := by
  induction text with
  | nil => exact ⟨[], rfl⟩
  | cons c text ih =>
    rw [List.forall_mem_cons] at h
    obtain ⟨value, hc⟩ := Option.isSome_iff_exists.1 h.1
    obtain ⟨rest, hrest⟩ := ih h.2
    exact ⟨value :: rest, by rw [List.mapM_cons, hc, hrest]; rfl⟩

/-- Digits are read just from a text of digits that is not empty, and one from each character. -/
theorem Text.exists_digits?_iff :
    (∃ values, digits? text = some values ∧ values.length = count) ↔
      text ≠ [] ∧ (∀ c ∈ text, (digitValue? c).isSome) ∧ text.length = count := by
  unfold digits?
  by_cases hempty : text = []
  · subst hempty
    simp
  · rw [if_neg (by simpa using hempty)]
    constructor
    · rintro ⟨values, hvalues, rfl⟩
      obtain ⟨hlength, hdigits⟩ := mapM_digitValue?_eq_some hvalues
      exact ⟨hempty, hdigits, hlength.symm⟩
    · rintro ⟨-, hdigits, rfl⟩
      obtain ⟨values, hvalues⟩ := exists_mapM_digitValue? hdigits
      exact ⟨values, hvalues, (mapM_digitValue?_eq_some hvalues).1⟩

namespace Numeral

/-- The text is a sign, if it has one, and this many decimal digits of any script. -/
def IsPlain (text : List Char) (count : ℕ) : Prop :=
  ∃ sign digits, text = sign ++ digits ∧ sign ∈ [[], ['+'], ['-']] ∧
    (∀ c ∈ digits, (digitValue? c).isSome) ∧ digits.length = count

theorem exists_sign (text : List Char) :
    ∃ sign ∈ [[], ['+'], ['-']], text = sign ++ (takeSign text).2 := by
  unfold takeSign
  split
  · exact ⟨['-'], by decide, rfl⟩
  · exact ⟨['+'], by decide, rfl⟩
  · exact ⟨[], by decide, rfl⟩

theorem takeSign_append {sign digits : List Char} (hsign : sign ∈ [[], ['+'], ['-']])
    (hdigits : ∀ c ∈ digits, (digitValue? c).isSome) :
    takeSign (sign ++ digits) = (decide (sign = ['-']), digits) := by
  simp only [List.mem_cons, List.not_mem_nil, or_false] at hsign
  rcases hsign with rfl | rfl | rfl
  · -- a digit is no sign
    rw [List.nil_append]
    unfold takeSign
    split
    · exact absurd (hdigits '-' List.mem_cons_self) (by decide)
    · exact absurd (hdigits '+' List.mem_cons_self) (by decide)
    · rfl
  · rfl
  · rfl

/-- A whole number is read just from a text of a sign, if any, and one or more digits. -/
theorem exists_plain?_iff (text : List Char) (count : ℕ) :
    (∃ w, plain? text = some w ∧ w.digits.length = count) ↔ IsPlain text count ∧ count ≠ 0 := by
  have hread : (∃ w, plain? text = some w ∧ w.digits.length = count) ↔
      ∃ values, digits? (takeSign text).2 = some values ∧ values.length = count := by
    unfold plain?
    dsimp only
    cases digits? (takeSign text).2 <;> simp
  rw [hread, exists_digits?_iff]
  constructor
  · rintro ⟨hne, hdigits, rfl⟩
    obtain ⟨sign, hsign, htext⟩ := exists_sign text
    exact ⟨⟨sign, _, htext, hsign, hdigits, rfl⟩, by simpa using hne⟩
  · rintro ⟨⟨sign, digits, rfl, hsign, hdigits, rfl⟩, hne⟩
    rw [takeSign_append hsign hdigits]
    exact ⟨by simpa using hne, hdigits, rfl⟩

end Numeral

namespace Timestamp

variable {value : String} {refusal : Numeral.TooManyDigits}

/-- Without the blank space around it, the value is a sign, if it has one, and this many digits,
which are too many to be read. -/
def IsOverlong (value : String) (count : ℕ) : Prop :=
  Numeral.IsPlain (strip value.toList) count ∧ Numeral.maxDigits < count

theorem isOverlong_iff :
    IsOverlong value count ↔
      ∃ w, Numeral.plain? (strip value.toList) = some w ∧ w.digits.length = count ∧
        Numeral.maxDigits < count := by
  have hread := Numeral.exists_plain?_iff (strip value.toList) count
  constructor
  · rintro ⟨hplain, hlong⟩
    obtain ⟨w, hw, hcount⟩ := hread.2 ⟨hplain, by omega⟩
    exact ⟨w, hw, hcount, hlong⟩
  · rintro ⟨w, hw, hcount, hlong⟩
    exact ⟨(hread.1 ⟨w, hw, hcount⟩).1, hlong⟩

theorem mapError_outOfRange_ne (x : Except TimeError DateTime) :
    x.mapError (fun _ => TimestampError.outOfRange) ≠ .error (.tooManyDigits refusal) := by
  cases x <;> simp [Except.mapError]

/-- The value of a timestamp header is refused for its digits just if they are too many. -/
theorem read_eq_tooManyDigits_iff :
    read value = .error (.tooManyDigits ⟨count⟩) ↔ IsOverlong value count := by
  rw [isOverlong_iff]
  unfold read
  dsimp only
  cases hplain : Numeral.plain? (strip value.toList) with
  | none =>
    dsimp only
    unfold ofIso
    constructor
    · intro h
      split at h
      · cases h
      · exact absurd h (mapError_outOfRange_ne _)
    · rintro ⟨w, hw, -⟩
      cases hw
  | some w =>
    dsimp only
    unfold ofWhole Numeral.Whole.value
    by_cases hlong : Numeral.maxDigits < w.digits.length
    · rw [if_pos hlong]
      constructor
      · intro h
        cases h
        exact ⟨w, rfl, rfl, hlong⟩
      · rintro ⟨w', hw, rfl, -⟩
        cases hw
        rfl
    · rw [if_neg hlong]
      constructor
      · intro h
        exact absurd h (mapError_outOfRange_ne _)
      · rintro ⟨w', hw, rfl, hlong'⟩
        cases hw
        exact absurd hlong' hlong

end Timestamp

end WebhookAuth
