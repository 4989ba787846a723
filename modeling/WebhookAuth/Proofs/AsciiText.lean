import Mathlib.Tactic
import WebhookAuth.Proofs.Overlong
import WebhookAuth.Proofs.TagText

/-!
# Text in ASCII

What holds of the ASCII characters one after another holds of each character below 128
(`Text.forall_ascii`). A text in ASCII has one byte for each character
(`flatMap_utf8EncodeChar_of_ascii`), and its lowercase form changes each character on its own
(`Text.lowerFrom_of_ascii`). A number in decimal digits reads as itself (`Numeral.whole?_toString`).
-/

namespace WebhookAuth

/-! ### Characters -/

namespace Text

variable {c : Char}

theorem toNat_lt_of_le {d : Char} {n : ℕ} (h : c ≤ d) (hd : d.toNat < n) : c.toNat < n :=
  (UInt32.le_iff_toNat_le.1 h).trans_lt hd

/-- A bounded check decides what all ASCII characters have in common. -/
theorem forall_ascii {p : Char → Prop} (h : ∀ n < 128, p (Char.ofNat n)) :
    ∀ c : Char, c.toNat < 128 → p c := by
  intro c hc
  have hchar := h c.toNat hc
  rwa [Char.ofNat_toNat] at hchar

theorem toNat_of_isDigit (h : c.isDigit = true) : 48 ≤ c.toNat ∧ c.toNat ≤ 57 := by
  simpa [Char.isDigit, UInt32.le_iff_toNat_le] using h

theorem isBlank_of_isDigit (h : c.isDigit = true) : isBlank c = false := by
  have hbounds := toNat_of_isDigit h
  unfold isBlank
  simp only [Bool.or_eq_false_iff, Bool.and_eq_false_iff, decide_eq_false_iff_not,
    beq_eq_false_iff_ne, not_le]
  omega

end Text

/-! ### Bytes -/

section Bytes

variable {text : List Char}

/-- The bytes of a text in ASCII, one for each character. -/
def asciiBytes (text : List Char) : Bytes := text.map Char.toUInt8

theorem utf8EncodeChar_of_ascii : ∀ c : Char, c.toNat < 128 →
    String.utf8EncodeChar c = [c.toUInt8] :=
  Text.forall_ascii (by decide +kernel)

theorem flatMap_utf8EncodeChar_of_ascii (h : ∀ c ∈ text, c.toNat < 128) :
    text.flatMap String.utf8EncodeChar = asciiBytes text := by
  induction text with
  | nil => rfl
  | cons c text ih =>
    rw [List.forall_mem_cons] at h
    rw [List.flatMap_cons, utf8EncodeChar_of_ascii c h.1, ih h.2]
    rfl

@[simp] theorem asciiBytes_append (text text' : List Char) :
    asciiBytes (text ++ text') = asciiBytes text ++ asciiBytes text' := List.map_append

@[simp] theorem asciiBytes_cons (c : Char) (text : List Char) :
    asciiBytes (c :: text) = c.toUInt8 :: asciiBytes text := rfl

@[simp] theorem length_asciiBytes (text : List Char) : (asciiBytes text).length = text.length :=
  List.length_map _

end Bytes

/-! ### Decimal digits -/

namespace Numeral

variable {n : ℕ} {c : Char}

theorem digitValue?_digitChar : ∀ d < 10, Text.digitValue? (Nat.digitChar d) = some d := by
  decide

theorem valueOf_append_singleton (digits : List ℕ) (d : ℕ) :
    valueOf (digits ++ [d]) = 10 * valueOf digits + d := by
  unfold valueOf
  rw [List.foldl_append, List.foldl_cons, List.foldl_nil]

/-- The decimal digits of a number spell it. -/
theorem exists_digits_toDigits (n : ℕ) :
    ∃ digits, (Nat.toDigits 10 n).mapM Text.digitValue? = some digits ∧ valueOf digits = n := by
  -- the last digit comes off the end
  induction n using Nat.strongRecOn with
  | ind n ih =>
    rw [Nat.toDigits_eq_if (by decide)]
    split_ifs with hlt
    · refine ⟨[n], ?_, ?_⟩
      · rw [List.mapM_cons, digitValue?_digitChar n hlt]
        rfl
      · unfold valueOf
        simp
    · obtain ⟨digits, hdigits, hvalue⟩ := ih (n / 10) (by omega)
      refine ⟨digits ++ [n % 10], ?_, ?_⟩
      · rw [List.mapM_append, hdigits, List.mapM_cons,
          digitValue?_digitChar (n % 10) (Nat.mod_lt n (by decide))]
        rfl
      · rw [valueOf_append_singleton, hvalue]
        omega

/-- A digit is neither a sign nor a low line nor blank. -/
theorem of_isDigit (h : c.isDigit = true) : c ≠ '-' ∧ c ≠ '+' ∧ c ≠ '_' ∧ isEdge c = false := by
  refine ⟨?_, ?_, ?_, ?_⟩
  · rintro rfl
    exact absurd h (by decide)
  · rintro rfl
    exact absurd h (by decide)
  · rintro rfl
    exact absurd h (by decide)
  · rw [isEdge, Text.isBlank_of_isDigit h, Bool.false_and]

theorem takeSign_of_ne {text : List Char} (h : ∀ c ∈ text, c ≠ '-' ∧ c ≠ '+') :
    takeSign text = (false, text) := by
  unfold takeSign
  split
  · exact absurd rfl (h _ List.mem_cons_self).1
  · exact absurd rfl (h _ List.mem_cons_self).2
  · rfl

/-- A number in decimal reads as itself, if it has not too many digits. -/
theorem whole?_toString (h : (Nat.toDigits 10 n).length ≤ maxDigits) :
    ∃ w, whole? (toString n).toList = some w ∧ w.value = .ok (n : ℤ) := by
  obtain ⟨digits, hdigits, hvalue⟩ := exists_digits_toDigits n
  have hplain : ∀ c ∈ Nat.toDigits 10 n, c ≠ '-' ∧ c ≠ '+' ∧ c ≠ '_' ∧ isEdge c = false :=
    fun c hc => of_isDigit (Nat.isDigit_of_mem_toDigits (by decide) (by decide) hc)
  have htext : (toString n).toList = Nat.toDigits 10 n := Nat.toList_repr
  have hnonempty : (Nat.toDigits 10 n).isEmpty = false := by
    rw [List.isEmpty_eq_false_iff]
    exact Nat.toDigits_ne_nil
  refine ⟨⟨false, digits⟩, ?_, ?_⟩
  · unfold whole? grouped? Text.digits?
    rw [htext, Text.trimBy_eq_self fun c hc => (hplain c hc).2.2.2,
      takeSign_of_ne fun c hc => ⟨(hplain c hc).1, (hplain c hc).2.1⟩]
    dsimp only
    rw [List.splitOn_eq_singleton fun hmem => (hplain _ hmem).2.2.1 rfl, List.mapM_cons, hnonempty,
      if_neg Bool.false_ne_true, hdigits]
    simp
  · have hlength : ¬maxDigits < digits.length := by
      rw [(Text.mapM_digitValue?_eq_some hdigits).1]
      omega
    unfold Whole.value
    dsimp only
    rw [if_neg hlength, hvalue]
    rfl

end Numeral

/-! ### Lowercase -/

namespace Text

variable {c : Char} {before text : List Char}

/-- The lowercase form of an ASCII text is that of its characters. -/
theorem lowerFrom_of_ascii (h : ∀ c ∈ text, c.toNat < 128) :
    lowerFrom before text = text.map lowerAscii := by
  induction text generalizing before with
  | nil => rfl
  | cons c text ih =>
    rw [List.forall_mem_cons] at h
    have hsigma : c ≠ '\u03a3' := by
      rintro rfl
      exact absurd h.1 (by decide)
    have hdotted : c ≠ '\u0130' := by
      rintro rfl
      exact absurd h.1 (by decide)
    rw [lowerFrom_cons, ih h.2, lowerWithin, if_neg hsigma, if_neg hdotted, lowerChar, if_pos h.1]
    rfl

theorem lower_of_ascii {text : String} (h : ∀ c ∈ text.toList, c.toNat < 128) :
    lower text = String.ofList (text.toList.map lowerAscii) := by
  rw [lower, lowerFrom_of_ascii h]

end Text

end WebhookAuth
