import Mathlib.Data.List.TakeWhile
import Mathlib.Tactic
import WebhookAuth.Proofs.Trimming
import WebhookAuth.Signature

/-!
# Tags as text

Bytes in Base64 are a digit for each of their sextets, and padding (`Base64.encode_eq`); reading
gives the bytes back (`Base64.decode?_encode`). A tag of 32 bytes is never taken for hexadecimal
digits, as its text ends with padding, so that a signature header gives the tag that was written
(`Signature.decode_encode`).
-/

namespace WebhookAuth

/-! ### Blank characters -/

namespace Text

/-- A text with a character that is not blank is not blank. -/
theorem isBlankText_eq_false {text : String} {c : Char} (hc : c ∈ text.toList)
    (h : isBlank c = false) : isBlankText text = false := by
  unfold isBlankText
  rw [List.all_eq_false]
  exact ⟨c, hc, by rw [h]; exact Bool.false_ne_true⟩

end Text

/-! ### Base64 -/

namespace Base64

variable {bytes : Bytes} {n : ℕ} {c : Char}

/-- The values of the digits of bytes, six bits each. -/
def sextets : Bytes → List ℕ
  | [] => []
  | [a] => [a.toNat / 4, 16 * (a.toNat % 4)]
  | [a, b] => [a.toNat / 4, 16 * (a.toNat % 4) + b.toNat / 16, 4 * (b.toNat % 16)]
  | a :: b :: c :: rest =>
    a.toNat / 4 :: (16 * (a.toNat % 4) + b.toNat / 16) :: (4 * (b.toNat % 16) + c.toNat / 64) ::
      c.toNat % 64 :: sextets rest

/-- The number of padding characters after the digits of this many bytes. -/
def paddingOf (length : ℕ) : ℕ := (3 - length % 3) % 3

theorem paddingOf_add_three (length : ℕ) : paddingOf (length + 3) = paddingOf length := by
  unfold paddingOf
  rw [Nat.add_mod_right]

/-- The text of bytes is a digit for each sextet, and the padding. -/
theorem encode_eq (bytes : Bytes) :
    encode bytes = (sextets bytes).map digit ++ List.replicate (paddingOf bytes.length) '=' := by
  induction bytes using encode.induct with
  | case1 => rfl
  | case2 a => rfl
  | case3 a b => rfl
  | case4 a b c rest ih =>
    rw [encode, sextets, ih]
    simp only [List.length_cons, paddingOf_add_three, List.map_cons, List.cons_append]

theorem lt_of_mem_sextets (h : n ∈ sextets bytes) : n < 64 := by
  induction bytes using encode.induct with
  | case1 => cases h
  | case2 a =>
    have ha := a.toNat_lt
    simp only [sextets, List.mem_cons, List.not_mem_nil, or_false] at h
    omega
  | case3 a b =>
    have ha := a.toNat_lt
    have hb := b.toNat_lt
    simp only [sextets, List.mem_cons, List.not_mem_nil, or_false] at h
    omega
  | case4 a b c rest ih =>
    have ha := a.toNat_lt
    have hb := b.toNat_lt
    have hc := c.toNat_lt
    simp only [sextets, List.mem_cons] at h
    rcases h with h | h | h | h | h
    · omega
    · omega
    · omega
    · omega
    · exact ih h

theorem paddingFits_add_four {digits padding : ℕ} (h : paddingFits digits padding = true) :
    paddingFits (digits + 4) padding = true := by
  unfold paddingFits at h ⊢
  rw [Nat.add_mod_right]
  split at h
  · simp
  · exact h
  · exact h
  · cases h

/-- The padding fits the digits. -/
theorem paddingFits_sextets (bytes : Bytes) :
    paddingFits (sextets bytes).length (paddingOf bytes.length) = true := by
  induction bytes using encode.induct with
  | case1 => rfl
  | case2 a => rfl
  | case3 a b => rfl
  | case4 a b c rest ih =>
    have hlength : (a :: b :: c :: rest).length = rest.length + 3 := rfl
    rw [hlength, paddingOf_add_three]
    exact paddingFits_add_four ih

theorem ofNat_eq_of_toNat {b : UInt8} (h : b.toNat = n % 256) : UInt8.ofNat n = b := by
  rw [← UInt8.toNat_inj, UInt8.toNat_ofNat', h]

/-- The bytes are read back from their sextets. -/
theorem ofSextets_sextets (bytes : Bytes) : ofSextets (sextets bytes) = bytes := by
  induction bytes using encode.induct with
  | case1 => rfl
  | case2 a =>
    have ha := a.toNat_lt
    rw [sextets, ofSextets, ofNat_eq_of_toNat (b := a) (by omega)]
  | case3 a b =>
    have ha := a.toNat_lt
    have hb := b.toNat_lt
    rw [sextets, ofSextets, ofNat_eq_of_toNat (b := a) (by omega),
      ofNat_eq_of_toNat (b := b) (by omega)]
  | case4 a b c rest ih =>
    have ha := a.toNat_lt
    have hb := b.toNat_lt
    have hc := c.toNat_lt
    rw [sextets, ofSextets, ih, ofNat_eq_of_toNat (b := a) (by omega),
      ofNat_eq_of_toNat (b := b) (by omega), ofNat_eq_of_toNat (b := c) (by omega)]

theorem value?_digit_of_lt (h : n < 64) : value? (digit n) = some n := value?_digit ⟨n, h⟩

theorem isDigit_of_mem_map_digit {values : List ℕ} (h : ∀ n ∈ values, n < 64)
    (hc : c ∈ values.map digit) : isDigit c = true := by
  obtain ⟨n, hn, rfl⟩ := List.mem_map.1 hc
  rw [isDigit, value?_digit_of_lt (h n hn)]
  rfl

theorem mapM_value?_digit {values : List ℕ} (h : ∀ n ∈ values, n < 64) :
    (values.map digit).mapM value? = some values := by
  induction values with
  | nil => rfl
  | cons n values ih =>
    rw [List.forall_mem_cons] at h
    rw [List.map_cons, List.mapM_cons, value?_digit_of_lt h.1, ih h.2]
    rfl

/-- A text of digits and padding is read if the padding fits the digits. -/
theorem decode?_map_digit_append {values : List ℕ} (h : ∀ n ∈ values, n < 64) (padding : ℕ) :
    decode? (values.map digit ++ List.replicate padding '=') =
      if paddingFits values.length padding = true then some (ofSextets values) else none := by
  have hdigits : ∀ c ∈ values.map digit, isDigit c = true :=
    fun c hc => isDigit_of_mem_map_digit h hc
  have hequals : isDigit '=' = false := by decide
  -- the digits end where the padding begins
  have hfront : (values.map digit ++ List.replicate padding '=').takeWhile isDigit =
      values.map digit := by
    rw [List.takeWhile_append_of_pos hdigits, List.takeWhile_replicate, hequals,
      if_neg Bool.false_ne_true, List.append_nil]
  have hback : (values.map digit ++ List.replicate padding '=').dropWhile isDigit =
      List.replicate padding '=' := by
    rw [List.dropWhile_append_of_pos hdigits, List.dropWhile_replicate, hequals,
      if_neg Bool.false_ne_true]
  have hall : (List.replicate padding '=').all (· == '=') = true := by
    rw [List.all_eq_true]
    exact fun c hc => beq_iff_eq.2 (List.eq_of_mem_replicate hc)
  unfold decode?
  dsimp only
  rw [hfront, hback, hall, List.length_map, List.length_replicate, Bool.true_and,
    mapM_value?_digit h, Option.map_some]

/-- Reading undoes writing. -/
theorem decode?_encode (bytes : Bytes) : decode? (encode bytes) = some bytes := by
  rw [encode_eq, decode?_map_digit_append fun _ => lt_of_mem_sextets,
    if_pos (paddingFits_sextets bytes), ofSextets_sextets]

/-- The text of bytes that do not come in whole groups ends with padding. -/
theorem padding_mem_encode (h : bytes.length % 3 ≠ 0) : '=' ∈ encode bytes := by
  rw [encode_eq, List.mem_append, List.mem_replicate]
  refine .inr ⟨?_, rfl⟩
  unfold paddingOf
  omega

theorem isBlank_of_mem_encode (h : c ∈ encode bytes) : Text.isBlank c = false := by
  have hdigit : ∀ n : Fin 64, Text.isBlank (digit n) = false := by decide
  rw [encode_eq, List.mem_append, List.mem_map] at h
  rcases h with ⟨n, hn, rfl⟩ | hpadding
  · exact hdigit ⟨n, lt_of_mem_sextets hn⟩
  · rw [List.eq_of_mem_replicate hpadding]
    decide

end Base64

/-! ### Signature headers -/

namespace Signature

variable {tag : Bytes} {text : List Char}

theorem length_tag (secret message : Bytes) : (Signature.tag secret message).length = 32 :=
  Hmac.length_tag secret message

theorem isHex_of_padding_mem (h : '=' ∈ text) : isHex text = false := by
  rw [isHex, Bool.and_eq_false_iff, List.all_eq_false]
  exact .inr ⟨'=', h, by decide⟩

/-- A tag that does not come in whole groups is read back from its text: the padding shows that the
text is not hexadecimal. -/
theorem decode_encode (h : tag.length % 3 ≠ 0) : decode (encode tag) = .ok tag := by
  have hpadding : '=' ∈ Base64.encode tag := Base64.padding_mem_encode h
  have hstrip : Text.strip (Base64.encode tag) = Base64.encode tag :=
    Text.trimBy_eq_self fun c hc => Base64.isBlank_of_mem_encode hc
  have hnonempty : ¬(Base64.encode tag).isEmpty = true := by
    rw [List.isEmpty_iff]
    exact List.ne_nil_of_mem hpadding
  unfold decode encode
  dsimp only
  rw [String.toList_ofList, hstrip, if_neg hnonempty, isHex_of_padding_mem hpadding,
    if_neg Bool.false_ne_true, Base64.decode?_encode]

/-- The text of such a tag is a header value that counts. -/
theorem isBlankText_encode (h : tag.length % 3 ≠ 0) : Text.isBlankText (encode tag) = false := by
  have hpadding : '=' ∈ Base64.encode tag := Base64.padding_mem_encode h
  refine Text.isBlankText_eq_false (c := '=') ?_ (by decide)
  unfold encode
  rw [String.toList_ofList]
  exact hpadding

/-- A tag is valid for its own message. -/
theorem isValid_encode_tag (secret message : Bytes) :
    isValid secret message (encode (Signature.tag secret message)) = .ok true := by
  have hlength : (Signature.tag secret message).length % 3 ≠ 0 := by
    rw [length_tag]
    decide
  unfold isValid
  rw [decode_encode hlength]
  exact congrArg Except.ok (beq_self_eq_true _)

end Signature

end WebhookAuth
