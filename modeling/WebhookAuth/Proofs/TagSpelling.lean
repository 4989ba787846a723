import WebhookAuth.Proofs.AsciiText
import WebhookAuth.Proofs.CanonicalMessage

/-!
# Spellings of a tag

Reading hexadecimal digits accepts just the spellings of bytes in either letter case
(`Hex.decode?_eq_some_iff`). Reading Base64 accepts digits with padding that fits them
(`Base64.exists_decode?_iff`), also whole groups with padding that they do not need; of the last
digit before the padding it uses some of the bits only, so that a tag of 32 bytes has four texts
(`Base64.decode?_eq_some_iff_agrees`). From both it follows which header values are valid, which are
errors, and which are merely wrong (`Signature.isValid_tells_spelling`), and when a tag is read back
from its own text (`Signature.decode_spelled`): the one exception is a text in Base64 that passes
for hexadecimal.
-/

namespace WebhookAuth

/-! ### Hexadecimal digits -/

namespace Hex

variable {c : Char} {n : ℕ} {text : List Char} {bytes : Bytes}

/-- The text spells the bytes in pairs of digits, with letters in either case. -/
def Spells (text : List Char) (bytes : Bytes) : Prop := text.map Char.toLower = encode bytes

theorem toNat_lt_of_value?_eq_some (h : value? c = some n) : c.toNat < 128 := by
  unfold value? at h
  split_ifs at h with hdigit hlower hupper
  · exact Text.toNat_lt_of_le hdigit.2 (by decide)
  · exact Text.toNat_lt_of_le hlower.2 (by decide)
  · exact Text.toNat_lt_of_le hupper.2 (by decide)

theorem toNat_lt_of_toLower_eq_digit (hn : n < 16) (h : c.toLower = digit n) : c.toNat < 128 := by
  unfold Char.toLower at h
  split at h
  · rename_i hupper
    exact Text.toNat_lt_of_le hupper.2 (by decide)
  · have hdigit : ∀ m < 16, (digit m).toNat < 128 := by decide
    rw [h]
    exact hdigit n hn

/-- A character has a value just if its lowercase form is the digit of that value. -/
theorem value?_eq_some_iff : value? c = some n ↔ n < 16 ∧ c.toLower = digit n := by
  have hascii : ∀ c : Char, c.toNat < 128 →
      (∀ v ∈ value? c, v < 16) ∧ ∀ v < 16, value? c = some v ↔ c.toLower = digit v :=
    Text.forall_ascii (by decide +kernel)
  constructor
  · intro h
    obtain ⟨hbound, hvalue⟩ := hascii c (toNat_lt_of_value?_eq_some h)
    exact ⟨hbound n h, (hvalue n (hbound n h)).1 h⟩
  · rintro ⟨hn, h⟩
    exact ((hascii c (toNat_lt_of_toLower_eq_digit hn h)).2 n hn).2 h

theorem encode_cons (b : UInt8) (bytes : Bytes) :
    encode (b :: bytes) = digit (b.toNat / 16) :: digit (b.toNat % 16) :: encode bytes := rfl

theorem length_encode (bytes : Bytes) : (encode bytes).length = 2 * bytes.length := by
  induction bytes with
  | nil => rfl
  | cons b bytes ih =>
    rw [encode_cons, List.length_cons, List.length_cons, List.length_cons, ih]
    omega

theorem Spells.length_eq (h : Spells text bytes) : text.length = 2 * bytes.length := by
  rw [← length_encode, ← h, List.length_map]

theorem spells_cons_iff {high low : Char} {b : UInt8} :
    Spells (high :: low :: text) (b :: bytes) ↔
      (value? high = some (b.toNat / 16) ∧ value? low = some (b.toNat % 16)) ∧
        Spells text bytes := by
  have hb := b.toNat_lt
  have hhigh : b.toNat / 16 < 16 := by omega
  have hlow : b.toNat % 16 < 16 := by omega
  simp only [Spells, encode_cons, List.map_cons, List.cons.injEq, value?_eq_some_iff, hhigh, hlow,
    true_and, and_assoc]

theorem ofNat_eq_iff {h l : ℕ} (hh : h < 16) (hl : l < 16) {b : UInt8} :
    UInt8.ofNat (16 * h + l) = b ↔ h = b.toNat / 16 ∧ l = b.toNat % 16 := by
  have hb := b.toNat_lt
  rw [← UInt8.toNat_inj, UInt8.toNat_ofNat']
  omega

/-- Reading accepts just the spellings. -/
theorem decode?_eq_some_iff : decode? text = some bytes ↔ Spells text bytes := by
  induction text using decode?.induct generalizing bytes with
  | case1 =>
    cases bytes with
    | nil => exact iff_of_true rfl rfl
    | cons b bytes => simp [decode?, Spells, encode_cons]
  | case2 c =>
    refine iff_of_false (by simp [decode?]) fun h => ?_
    have hlength := h.length_eq
    rw [List.length_singleton] at hlength
    omega
  | case3 high low text ih =>
    cases bytes with
    | nil =>
      refine iff_of_false ?_ fun h => absurd h.length_eq (by simp)
      simp [decode?, Option.bind_eq_some_iff]
    | cons b bytes =>
      rw [spells_cons_iff, ← ih]
      simp only [decode?, Option.bind_eq_bind, Option.bind_eq_some_iff, Option.pure_def,
        Option.some.injEq, List.cons.injEq]
      constructor
      · rintro ⟨h, hh, l, hl, _, hrest, hb, rfl⟩
        obtain ⟨rfl, rfl⟩ :=
          (ofNat_eq_iff (value?_eq_some_iff.1 hh).1 (value?_eq_some_iff.1 hl).1).1 hb
        exact ⟨⟨hh, hl⟩, hrest⟩
      · rintro ⟨⟨hh, hl⟩, hrest⟩
        refine ⟨_, hh, _, hl, _, hrest, ?_, rfl⟩
        exact (ofNat_eq_iff (value?_eq_some_iff.1 hh).1 (value?_eq_some_iff.1 hl).1).2 ⟨rfl, rfl⟩

/-- A text is read just if it is made of pairs of digits. -/
theorem exists_decode?_iff :
    (∃ bytes, decode? text = some bytes) ↔
      text.length % 2 = 0 ∧ ∀ c ∈ text, (value? c).isSome = true := by
  induction text using decode?.induct with
  | case1 => simp [decode?]
  | case2 c => simp [decode?]
  | case3 high low text ih =>
    have hlength : (high :: low :: text).length % 2 = text.length % 2 := by simp; omega
    rw [hlength, List.forall_mem_cons, List.forall_mem_cons]
    simp only [decode?, Option.bind_eq_bind, Option.bind_eq_some_iff, Option.pure_def,
      Option.some.injEq, Option.isSome_iff_exists] at ih ⊢
    constructor
    · rintro ⟨_, h, hh, l, hl, bytes, hrest, -⟩
      obtain ⟨heven, hall⟩ := ih.1 ⟨bytes, hrest⟩
      exact ⟨heven, ⟨h, hh⟩, ⟨l, hl⟩, hall⟩
    · rintro ⟨heven, ⟨h, hh⟩, ⟨l, hl⟩, hall⟩
      obtain ⟨bytes, hrest⟩ := ih.2 ⟨heven, hall⟩
      exact ⟨_, h, hh, l, hl, bytes, hrest, rfl⟩

theorem isBlank_of_isSome_value? (h : (value? c).isSome = true) : Text.isBlank c = false := by
  obtain ⟨n, hn⟩ := Option.isSome_iff_exists.1 h
  have hascii : ∀ c : Char, c.toNat < 128 → (value? c).isSome = true → Text.isBlank c = false :=
    Text.forall_ascii (by decide +kernel)
  exact hascii c (toNat_lt_of_value?_eq_some hn) h

theorem Spells.isSome_value? (h : Spells text bytes) : ∀ c ∈ text, (value? c).isSome = true :=
  (exists_decode?_iff.1 ⟨bytes, decode?_eq_some_iff.2 h⟩).2

end Hex

/-! ### Base64 digits -/

namespace Base64

variable {c : Char} {n v w padding : ℕ} {values front front' : List ℕ} {text : List Char}
  {bytes tag : Bytes}

theorem toNat_lt_of_value?_eq_some (h : value? c = some n) : c.toNat < 128 := by
  unfold value? at h
  split_ifs at h with hupper hlower hdigit hplus hslash
  · exact Text.toNat_lt_of_le hupper.2 (by decide)
  · exact Text.toNat_lt_of_le hlower.2 (by decide)
  · exact Text.toNat_lt_of_le hdigit.2 (by decide)
  · rw [hplus]
    decide
  · rw [hslash]
    decide

/-- A character has a value just if it is the digit of that value. -/
theorem value?_eq_some_iff : value? c = some n ↔ n < 64 ∧ c = digit n := by
  have hascii : ∀ c : Char, c.toNat < 128 → ∀ v ∈ value? c, v < 64 ∧ c = digit v :=
    Text.forall_ascii (by decide +kernel)
  constructor
  · intro h
    exact hascii c (toNat_lt_of_value?_eq_some h) n h
  · rintro ⟨hn, rfl⟩
    exact value?_digit_of_lt hn

theorem exists_map_digit (h : ∀ c ∈ text, isDigit c = true) :
    ∃ values : List ℕ, (∀ n ∈ values, n < 64) ∧ text = values.map digit := by
  induction text with
  | nil => exact ⟨[], fun n hn => absurd hn List.not_mem_nil, rfl⟩
  | cons c text ih =>
    rw [List.forall_mem_cons, isDigit, Option.isSome_iff_exists] at h
    obtain ⟨⟨n, hn⟩, htext⟩ := h
    obtain ⟨hlt, rfl⟩ := value?_eq_some_iff.1 hn
    obtain ⟨values, hvalues, rfl⟩ := ih htext
    exact ⟨n :: values, List.forall_mem_cons.2 ⟨hlt, hvalues⟩, rfl⟩

/-- Reading accepts just the digits of values whose bytes it gives, with padding that fits. -/
theorem decode?_eq_some_iff :
    decode? text = some bytes ↔
      ∃ values padding, (∀ n ∈ values, n < 64) ∧
        text = values.map digit ++ List.replicate padding '=' ∧
          paddingFits values.length padding = true ∧ ofSextets values = bytes := by
  constructor
  · intro h
    have hall : (text.dropWhile isDigit).all (· == '=') = true := by
      unfold decode? at h
      dsimp only at h
      split_ifs at h with hfits
      exact (Bool.and_eq_true_iff.1 hfits).1
    rw [List.all_eq_true] at hall
    have hdigits : ∀ c ∈ text.takeWhile isDigit, isDigit c = true :=
      fun c hc => List.mem_takeWhile_imp hc
    obtain ⟨values, hvalues, hfront⟩ := exists_map_digit hdigits
    have hback : text.dropWhile isDigit =
        List.replicate (text.dropWhile isDigit).length '=' :=
      List.eq_replicate_of_mem fun c hc => beq_iff_eq.1 (hall c hc)
    -- so the text is written out, and its reading is known
    have htext : text = values.map digit ++
        List.replicate (text.dropWhile isDigit).length '=' := by
      rw [← hfront, ← hback, List.takeWhile_append_dropWhile]
    rw [htext, decode?_map_digit_append hvalues] at h
    split_ifs at h with hfits
    exact ⟨values, _, hvalues, htext, hfits, Option.some.inj h⟩
  · rintro ⟨values, padding, hvalues, rfl, hfits, rfl⟩
    rw [decode?_map_digit_append hvalues, if_pos hfits]

/-! ### Texts that are read -/

/-- Digits and padding, in groups of four. -/
def IsStandard (text : List Char) : Prop :=
  ∃ digits padding, text = digits ++ List.replicate padding '=' ∧
    (∀ c ∈ digits, isDigit c = true) ∧ padding ≤ 2 ∧ (digits.length + padding) % 4 = 0

/-- Whole groups of digits, and padding that they do not need. -/
def IsOverpadded (text : List Char) : Prop :=
  ∃ digits padding, text = digits ++ List.replicate padding '=' ∧
    (∀ c ∈ digits, isDigit c = true) ∧ (digits ≠ [] ∧ digits.length % 4 = 0) ∧ 0 < padding

theorem paddingFits_iff :
    paddingFits n padding = true ↔
      padding ≤ 2 ∧ (n + padding) % 4 = 0 ∨ (n ≠ 0 ∧ n % 4 = 0) ∧ 0 < padding := by
  unfold paddingFits
  split
  · simp only [Bool.or_eq_true, bne_iff_ne, beq_iff_eq]
    omega
  · simp only [beq_iff_eq]
    omega
  · simp only [beq_iff_eq]
    omega
  · rename_i hzero htwo hthree
    have hone : n % 4 = 1 := by
      have hlt : n % 4 < 4 := Nat.mod_lt _ (by decide)
      have hne : n % 4 ≠ 0 ∧ n % 4 ≠ 2 ∧ n % 4 ≠ 3 := ⟨hzero, htwo, hthree⟩
      omega
    simp only [Bool.false_eq_true, false_iff]
    omega

/-- Padding that is not needed is passed over; all else that is not standard is refused. -/
theorem exists_decode?_iff :
    (∃ bytes, decode? text = some bytes) ↔ IsStandard text ∨ IsOverpadded text := by
  constructor
  · rintro ⟨bytes, h⟩
    obtain ⟨values, padding, hvalues, rfl, hfits, -⟩ := decode?_eq_some_iff.1 h
    have hdigits : ∀ c ∈ values.map digit, isDigit c = true :=
      fun c hc => isDigit_of_mem_map_digit hvalues hc
    rcases paddingFits_iff.1 hfits with ⟨hle, hgroups⟩ | ⟨⟨hne, hgroups⟩, hpos⟩
    · exact .inl ⟨_, padding, rfl, hdigits, hle, by rwa [List.length_map]⟩
    · refine .inr ⟨_, padding, rfl, hdigits, ⟨?_, by rwa [List.length_map]⟩, hpos⟩
      rwa [← List.length_pos_iff, List.length_map, Nat.pos_iff_ne_zero]
  · have hread : ∀ {digits : List Char} {padding : ℕ}, (∀ c ∈ digits, isDigit c = true) →
        paddingFits digits.length padding = true →
          ∃ bytes, decode? (digits ++ List.replicate padding '=') = some bytes := by
      intro digits padding hdigits hfits
      obtain ⟨values, hvalues, rfl⟩ := exists_map_digit hdigits
      rw [List.length_map] at hfits
      exact ⟨_, decode?_eq_some_iff.2 ⟨values, padding, hvalues, rfl, hfits, rfl⟩⟩
    rintro (⟨digits, padding, rfl, hdigits, hgroups⟩ | ⟨digits, padding, rfl, hdigits, hgroups⟩)
    · exact hread hdigits (paddingFits_iff.2 (.inl hgroups))
    · refine hread hdigits (paddingFits_iff.2 (.inr ⟨⟨?_, hgroups.1.2⟩, hgroups.2⟩))
      exact (List.length_pos_iff.2 hgroups.1.1).ne'

/-! ### Bits that are not used -/

/-- Induction by groups of four. -/
@[elab_as_elim]
theorem groups_induction {motive : List ℕ → Prop} (nil : motive []) (one : ∀ a, motive [a])
    (two : ∀ a b, motive [a, b]) (three : ∀ a b c, motive [a, b, c])
    (group : ∀ a b c d rest, motive rest → motive (a :: b :: c :: d :: rest)) :
    ∀ values, motive values
  | [] => nil
  | [a] => one a
  | [a, b] => two a b
  | [a, b, c] => three a b c
  | a :: b :: c :: d :: rest =>
    group a b c d rest (groups_induction nil one two three group rest)

theorem length_ofSextets (values : List ℕ) :
    (ofSextets values).length = 3 * (values.length / 4) + (values.length % 4 - 1) := by
  induction values using groups_induction with
  | nil => simp [ofSextets]
  | one a => simp [ofSextets]
  | two a b => simp [ofSextets]
  | three a b c => simp [ofSextets]
  | group a b c d rest ih =>
    rw [ofSextets]
    simp only [List.length_cons, ih]
    omega

/-- The last of three digits in the last group gives its upper four bits. -/
theorem sextets_ofSextets (hgroup : front.length % 4 = 2) (hfront : ∀ n ∈ front, n < 64)
    (hv : v < 64) : sextets (ofSextets (front ++ [v])) = front ++ [4 * (v / 4)] := by
  induction front using groups_induction with
  | nil => cases hgroup
  | one a => cases hgroup
  | two a b =>
    simp only [List.forall_mem_cons] at hfront
    obtain ⟨ha, hb, -⟩ := hfront
    simp only [List.cons_append, List.nil_append, ofSextets, sextets, UInt8.toNat_ofNat',
      List.cons.injEq, and_true]
    omega
  | three a b c => cases hgroup
  | group a b c d rest ih =>
    simp only [List.forall_mem_cons] at hfront
    obtain ⟨ha, hb, hc, hd, hrest⟩ := hfront
    have hlength : rest.length % 4 = 2 := by
      simp only [List.length_cons] at hgroup
      omega
    simp only [List.cons_append, ofSextets, sextets, ih hlength hrest, UInt8.toNat_ofNat',
      List.cons.injEq, and_true]
    omega

theorem map_digit_inj {values' : List ℕ} (h : ∀ n ∈ values, n < 64) (h' : ∀ n ∈ values', n < 64) :
    values.map digit = values'.map digit ↔ values = values' := by
  refine ⟨fun heq => ?_, fun heq => by rw [heq]⟩
  have hread : (values.map digit).mapM value? = (values'.map digit).mapM value? := by rw [heq]
  rwa [mapM_value?_digit h, mapM_value?_digit h', Option.some.injEq] at hread

/-- The values of 43 digits, the last one apart: as many as there are for 32 bytes. -/
structure TagValues (front : List ℕ) (v : ℕ) : Prop where
  length_eq : front.length = 42
  lt_of_mem : ∀ n ∈ front, n < 64
  last_lt : v < 64

namespace TagValues

theorem lt_of_mem_append (h : TagValues front v) : ∀ n ∈ front ++ [v], n < 64 := by
  rw [List.forall_mem_append, List.forall_mem_singleton]
  exact ⟨h.lt_of_mem, h.last_lt⟩

theorem length_append (h : TagValues front v) : (front ++ [v]).length = 43 := by
  rw [List.length_append, h.length_eq, List.length_singleton]

theorem ofSextets_eq_iff (h : TagValues front v) (h' : TagValues front' w) :
    ofSextets (front ++ [v]) = ofSextets (front' ++ [w]) ↔ front = front' ∧ v / 4 = w / 4 := by
  have hinj : Function.Injective sextets := Function.LeftInverse.injective ofSextets_sextets
  rw [← hinj.eq_iff, sextets_ofSextets (by rw [h.length_eq]) h.lt_of_mem h.last_lt,
    sextets_ofSextets (by rw [h'.length_eq]) h'.lt_of_mem h'.last_lt, List.append_singleton_inj]
  exact and_congr_right fun _ => by omega

/-- Values that give 32 bytes are as many as that. -/
theorem of_ofSextets (h : (ofSextets values).length = 32) (hvalues : ∀ n ∈ values, n < 64)
    (hfits : paddingFits values.length padding = true) :
    padding = 1 ∧ ∃ front v, values = front ++ [v] ∧ TagValues front v := by
  rw [length_ofSextets] at h
  rw [paddingFits_iff] at hfits
  rcases List.eq_nil_or_concat values with rfl | ⟨front, v, rfl⟩
  · cases h
  · rw [List.concat_eq_append] at *
    rw [List.length_append, List.length_singleton] at h hfits
    rw [List.forall_mem_append, List.forall_mem_singleton] at hvalues
    exact ⟨by omega, front, v, rfl, by omega, hvalues.1, hvalues.2⟩

theorem length_map_digit (h : TagValues front v) : ((front ++ [v]).map digit).length = 43 := by
  rw [List.length_map, h.length_append]

theorem take_text (h : TagValues front v) :
    ((front ++ [v]).map digit ++ ['=']).take 42 = front.map digit := by
  rw [List.map_append, List.append_assoc]
  exact List.take_left' (by rw [List.length_map, h.length_eq])

theorem value?_text (h : TagValues front v) :
    ((front ++ [v]).map digit ++ ['='])[42]?.bind value? = some v := by
  have hfront : (front.map digit).length = 42 := by rw [List.length_map, h.length_eq]
  rw [List.map_append, List.append_assoc, List.getElem?_append_right hfront.le, hfront]
  exact value?_digit_of_lt h.last_lt

end TagValues

/-- The text is 43 digits and a padding character, and its digits are those of the other text but
for the two lower bits of the last. -/
structure AgreesInUsedBits (text other : List Char) : Prop where
  length_eq : text.length = 44
  isDigit_of_mem : ∀ c ∈ text.take 43, isDigit c = true
  drop_eq : text.drop 43 = ['=']
  take_eq : text.take 42 = other.take 42
  used_eq : (text[42]?.bind value?).map (· / 4) = (other[42]?.bind value?).map (· / 4)

theorem agreesInUsedBits_iff (h : TagValues front v) (h' : TagValues front' w) :
    AgreesInUsedBits ((front ++ [v]).map digit ++ ['=']) ((front' ++ [w]).map digit ++ ['=']) ↔
      front = front' ∧ v / 4 = w / 4 := by
  rw [← map_digit_inj h.lt_of_mem h'.lt_of_mem]
  constructor
  · intro hagree
    have htake := hagree.take_eq
    have hused := hagree.used_eq
    rw [h.take_text, h'.take_text] at htake
    rw [h.value?_text, h'.value?_text, Option.map_some, Option.map_some, Option.some.injEq] at hused
    exact ⟨htake, hused⟩
  · rintro ⟨htake, hused⟩
    refine ⟨?_, ?_, List.drop_left' h.length_map_digit, ?_, ?_⟩
    · rw [List.length_append, h.length_map_digit, List.length_singleton]
    · rw [List.take_left' h.length_map_digit]
      exact fun c hc => isDigit_of_mem_map_digit h.lt_of_mem_append hc
    · rw [h.take_text, h'.take_text, htake]
    · rw [h.value?_text, h'.value?_text, Option.map_some, Option.map_some, hused]

theorem AgreesInUsedBits.exists_tagValues {other : List Char} (h : AgreesInUsedBits text other) :
    ∃ front v, TagValues front v ∧ text = (front ++ [v]).map digit ++ ['='] := by
  obtain ⟨values, hvalues, htake⟩ := exists_map_digit h.isDigit_of_mem
  have hlength : values.length = 43 := by
    rw [← List.length_map (f := digit), ← htake, List.length_take, h.length_eq]
    rfl
  have htext : text = values.map digit ++ ['='] := by
    rw [← htake, ← h.drop_eq, List.take_append_drop]
  rcases List.eq_nil_or_concat values with rfl | ⟨front, v, rfl⟩
  · cases hlength
  · rw [List.concat_eq_append] at hvalues hlength htext
    rw [List.forall_mem_append, List.forall_mem_singleton] at hvalues
    rw [List.length_append, List.length_singleton] at hlength
    exact ⟨front, v, ⟨by omega, hvalues.1, hvalues.2⟩, htext⟩

/-- A text reads as a tag of 32 bytes just if it agrees with the text that is written for it. -/
theorem decode?_eq_some_iff_agrees (h : tag.length = 32) :
    decode? text = some tag ↔ AgreesInUsedBits text (encode tag) := by
  have hlength : (ofSextets (sextets tag)).length = 32 := by rw [ofSextets_sextets, h]
  obtain ⟨hpadding, front', w, htag, h'⟩ :=
    TagValues.of_ofSextets hlength (fun _ => lt_of_mem_sextets) (paddingFits_sextets tag)
  have hencode : encode tag = (front' ++ [w]).map digit ++ ['='] := by
    rw [encode_eq, htag, hpadding]
    rfl
  have hbytes : tag = ofSextets (front' ++ [w]) := by rw [← htag, ofSextets_sextets]
  rw [hencode, decode?_eq_some_iff]
  constructor
  · rintro ⟨values, padding, hvalues, rfl, hfits, hvalue⟩
    obtain ⟨rfl, front, v, rfl, h⟩ :=
      TagValues.of_ofSextets (by rw [hvalue, h]) hvalues hfits
    exact (agreesInUsedBits_iff h h').2 ((h.ofSextets_eq_iff h').1 (hvalue.trans hbytes))
  · intro hagree
    obtain ⟨front, v, h, rfl⟩ := hagree.exists_tagValues
    have hsame := (agreesInUsedBits_iff h h').1 hagree
    refine ⟨front ++ [v], 1, h.lt_of_mem_append, rfl, ?_, ?_⟩
    · rw [h.length_append]
      decide
    · rw [hbytes, (h.ofSextets_eq_iff h').2 hsame]

theorem length_encode (bytes : Bytes) : (encode bytes).length = 4 * ((bytes.length + 2) / 3) := by
  induction bytes using encode.induct with
  | case1 => rfl
  | case2 a => simp [encode]
  | case3 a b => simp [encode]
  | case4 a b c rest ih =>
    rw [encode]
    simp only [List.length_cons, ih]
    omega

end Base64

/-! ### Signature headers -/

namespace Signature

variable {secret message tag : Bytes} {value : String} {text : List Char} {e : SignatureError}

theorem isHex_iff : isHex text = true ↔ ∃ bytes, Hex.Spells text bytes := by
  have hread := @Hex.exists_decode?_iff text
  simp only [Hex.decode?_eq_some_iff] at hread
  rw [hread, isHex, Bool.and_eq_true_iff, beq_iff_eq, List.all_eq_true]

theorem not_spells_of_isHex_eq_false (h : isHex text = false) : ¬Hex.Spells text tag := by
  intro hspells
  rw [isHex_iff.2 ⟨tag, hspells⟩] at h
  cases h

/-- Whatever can be read as hexadecimal is, and only the rest can be Base64. -/
theorem decode_cases (htext : Text.strip value.toList = text) :
    (text = [] ∧ decode value = .error .empty) ∨ text ≠ [] ∧
      ((∃ bytes, Hex.Spells text bytes ∧ decode value = .ok bytes) ∨ isHex text = false ∧
        ((∃ bytes, Base64.decode? text = some bytes ∧ decode value = .ok bytes) ∨
          Base64.decode? text = none ∧ decode value = .error .undecodable)) := by
  unfold decode
  dsimp only
  rw [htext]
  by_cases hempty : text = []
  · exact .inl ⟨hempty, by rw [hempty]; rfl⟩
  · refine .inr ⟨hempty, ?_⟩
    rw [if_neg (by rwa [List.isEmpty_iff])]
    cases hhex : isHex text with
    | true =>
      obtain ⟨bytes, hbytes⟩ := isHex_iff.1 hhex
      refine .inl ⟨bytes, hbytes, ?_⟩
      rw [if_pos rfl, Hex.decode?_eq_some_iff.2 hbytes]
    | false =>
      refine .inr ⟨rfl, ?_⟩
      rw [if_neg Bool.false_ne_true]
      cases hread : Base64.decode? text with
      | some bytes => exact .inl ⟨bytes, rfl, rfl⟩
      | none => exact .inr ⟨rfl, rfl⟩

theorem decode_eq_ok_iff (htext : Text.strip value.toList = text) :
    decode value = .ok tag ↔ text ≠ [] ∧
      (Hex.Spells text tag ∨ isHex text = false ∧ Base64.decode? text = some tag) := by
  rcases decode_cases htext with ⟨hempty, hdecode⟩ | ⟨hne, ⟨bytes, hspells, hdecode⟩ |
    ⟨hhex, ⟨bytes, hread, hdecode⟩ | ⟨hread, hdecode⟩⟩⟩
  · simp [hdecode, hempty]
  · have hhex : isHex text = true := isHex_iff.2 ⟨bytes, hspells⟩
    rw [hdecode, ← Hex.decode?_eq_some_iff, Hex.decode?_eq_some_iff.2 hspells]
    simp [hne, hhex]
  · simp [hdecode, hne, hhex, hread, not_spells_of_isHex_eq_false hhex]
  · simp [hdecode, hread, not_spells_of_isHex_eq_false hhex]

/-- The text gives no bytes. -/
inductive Unreadable (text : List Char) : SignatureError → Prop
  /-- It is empty. -/
  | empty (h : text = []) : Unreadable text .empty
  /-- It is neither pairs of hexadecimal digits nor Base64. -/
  | undecodable (hne : text ≠ []) (hhex : isHex text = false)
      (hstandard : ¬Base64.IsStandard text) (hoverpadded : ¬Base64.IsOverpadded text) :
      Unreadable text .undecodable

theorem unreadable_empty_iff : Unreadable text .empty ↔ text = [] :=
  ⟨fun | .empty h => h, .empty⟩

theorem unreadable_undecodable_iff :
    Unreadable text .undecodable ↔
      text ≠ [] ∧ isHex text = false ∧ Base64.decode? text = none := by
  have hread : Base64.decode? text = none ↔
      ¬(Base64.IsStandard text ∨ Base64.IsOverpadded text) := by
    rw [← Base64.exists_decode?_iff]
    cases Base64.decode? text <;> simp
  rw [hread, not_or]
  exact ⟨fun | .undecodable hne hhex hstandard hoverpadded => ⟨hne, hhex, hstandard, hoverpadded⟩,
    fun ⟨hne, hhex, hstandard, hoverpadded⟩ => .undecodable hne hhex hstandard hoverpadded⟩

theorem decode_eq_error_iff (htext : Text.strip value.toList = text) :
    decode value = .error e ↔ Unreadable text e := by
  have hreason : Unreadable text e ↔ (text = [] ∧ e = .empty) ∨
      (text ≠ [] ∧ isHex text = false ∧ Base64.decode? text = none) ∧ e = .undecodable := by
    cases e with
    | empty => simp [unreadable_empty_iff]
    | undecodable => simp [unreadable_undecodable_iff]
  rw [hreason]
  rcases decode_cases htext with ⟨hempty, hdecode⟩ | ⟨hne, ⟨bytes, hspells, hdecode⟩ |
    ⟨hhex, ⟨bytes, hread, hdecode⟩ | ⟨hread, hdecode⟩⟩⟩
  · simpa [hdecode, hempty] using eq_comm
  · simp [hdecode, hne, isHex_iff.2 ⟨bytes, hspells⟩]
  · simp [hdecode, hne, hread]
  · simpa [hdecode, hne, hhex, hread] using eq_comm

/-! ### Valid signatures -/

/-- The text spells the tag in hexadecimal digits, or in Base64 up to the bits that are not used. -/
def Spells (text : List Char) (tag : Bytes) : Prop :=
  Hex.Spells text tag ∨ Base64.AgreesInUsedBits text (Base64.encode tag)

theorem spells_iff (h : tag.length = 32) :
    Spells text tag ↔ text ≠ [] ∧
      (Hex.Spells text tag ∨ isHex text = false ∧ Base64.decode? text = some tag) := by
  rw [Base64.decode?_eq_some_iff_agrees h]
  constructor
  · rintro (hhex | hagree)
    · have hlength := hhex.length_eq
      rw [h] at hlength
      exact ⟨List.ne_nil_of_length_pos (by omega), .inl hhex⟩
    · have hpadding : '=' ∈ text := by
        refine List.mem_of_mem_drop (i := 43) ?_
        rw [hagree.drop_eq]
        exact List.mem_singleton_self _
      exact ⟨List.ne_nil_of_mem hpadding, .inr ⟨isHex_of_padding_mem hpadding, hagree⟩⟩
  · rintro ⟨-, hhex | ⟨-, hagree⟩⟩
    · exact .inl hhex
    · exact .inr hagree

theorem isValid_eq_error_iff :
    isValid secret message value = .error e ↔ decode value = .error e := by
  unfold isValid
  cases decode value <;> simp [Except.map]

/-- What is told of the value of a signature header, without its surrounding blank characters. -/
structure TellsSpelling (secret message : Bytes) (value : String) : Prop where
  /-- It is valid just if it is a spelling of the tag. -/
  valid_iff : isValid secret message value = .ok true ↔
    Spells (Text.strip value.toList) (Signature.tag secret message)
  /-- There is an error just if it gives no bytes. -/
  error_iff : ∀ e, isValid secret message value = .error e ↔
    Unreadable (Text.strip value.toList) e
  /-- It is not valid in all other cases. -/
  invalid_iff : isValid secret message value = .ok false ↔
    ¬Spells (Text.strip value.toList) (Signature.tag secret message) ∧
      ∀ e, ¬Unreadable (Text.strip value.toList) e

/-- A signature is valid just if it spells the tag, and an error just if it cannot be read. -/
theorem isValid_tells_spelling (secret message : Bytes) (value : String) :
    TellsSpelling secret message value := by
  have hvalid : isValid secret message value = .ok true ↔
      Spells (Text.strip value.toList) (Signature.tag secret message) := by
    rw [isValid_eq_ok_true_iff, decode_eq_ok_iff rfl, spells_iff (length_tag secret message)]
  have herror : ∀ e, isValid secret message value = .error e ↔
      Unreadable (Text.strip value.toList) e :=
    fun e => isValid_eq_error_iff.trans (decode_eq_error_iff rfl)
  refine ⟨hvalid, herror, ?_⟩
  simp only [← hvalid, ← herror]
  cases isValid secret message value with
  | error e => simp
  | ok valid => simp

/-- A whole group with padding that it does not need is read all the same. -/
theorem isValid_overpadded :
    Text.strip "AAAA=".toList ≠ [] ∧ isHex (Text.strip "AAAA=".toList) = false ∧
      ¬Base64.IsStandard (Text.strip "AAAA=".toList) ∧
      isValid (Utf8.encode "dev_secret") (Utf8.encode "m") "AAAA=" = .ok false := by
  have hstrip : Text.strip "AAAA=".toList = ['A', 'A', 'A', 'A', '='] := by decide
  rw [hstrip]
  refine ⟨by decide, by decide, ?_, ?_⟩
  · rintro ⟨digits, padding, htext, -, -, hgroups⟩
    have hlength := congrArg List.length htext
    rw [List.length_append, List.length_replicate] at hlength
    rw [← hlength] at hgroups
    cases hgroups
  · have hdecode : decode "AAAA=" = .ok [0, 0, 0] := by decide
    have hne : [0, 0, 0] ≠ Signature.tag (Utf8.encode "dev_secret") (Utf8.encode "m") := by
      intro heq
      have hlength := congrArg List.length heq
      rw [length_tag] at hlength
      cases hlength
    unfold isValid
    rw [hdecode, Except.map, beq_eq_false_iff_ne.2 hne]

/-! ### The round trip -/

/-- The text of a tag in Base64 does not spell it in hexadecimal. -/
theorem not_spells_encode (h : tag ≠ []) : ¬Hex.Spells (Base64.encode tag) tag := by
  intro hspells
  have hpadding : '=' ∉ Base64.encode tag :=
    fun hmem => absurd (hspells.isSome_value? '=' hmem) (by decide)
  have hgroups : tag.length % 3 = 0 := by
    by_contra hgroups
    exact hpadding (Base64.padding_mem_encode hgroups)
  -- four digits are three bytes in Base64 but two in hexadecimal
  have hpos : 0 < tag.length := List.length_pos_iff.2 h
  have hlength := hspells.length_eq
  rw [Base64.length_encode] at hlength
  omega

theorem isHex_encode_eq_false_iff :
    isHex (Base64.encode tag) = false ↔
      ¬∀ c ∈ Base64.encode tag, (Hex.value? c).isSome = true := by
  have heven : (Base64.encode tag).length % 2 = 0 := by
    rw [Base64.length_encode]
    omega
  rw [isHex, heven, beq_self_eq_true, Bool.true_and, ← Bool.not_eq_true, List.all_eq_true]

theorem decode_encode_iff (h : tag ≠ []) :
    decode (encode tag) = .ok tag ↔
      ¬∀ c ∈ (encode tag).toList, (Hex.value? c).isSome = true := by
  have htext : (encode tag).toList = Base64.encode tag := String.toList_ofList
  have hstrip : Text.strip (encode tag).toList = Base64.encode tag := by
    rw [htext]
    exact Text.trimBy_eq_self fun c hc => Base64.isBlank_of_mem_encode hc
  have hne : Base64.encode tag ≠ [] := by
    have hpos : 0 < tag.length := List.length_pos_iff.2 h
    rw [← List.length_pos_iff, Base64.length_encode]
    omega
  rw [decode_eq_ok_iff hstrip, htext, ← isHex_encode_eq_false_iff, Base64.decode?_encode]
  simp [hne, not_spells_encode h]

/-- A spelling in hexadecimal digits between blank characters is read. -/
theorem decode_of_spells {front back : List Char} (h : tag ≠ [])
    (hfront : ∀ c ∈ front, Text.isBlank c = true) (hspells : Hex.Spells text tag)
    (hback : ∀ c ∈ back, Text.isBlank c = true) :
    decode (String.ofList (front ++ text ++ back)) = .ok tag := by
  have hkept : ∀ c ∈ text, Text.isBlank c = false :=
    fun c hc => Hex.isBlank_of_isSome_value? (hspells.isSome_value? c hc)
  have hstrip : Text.strip (String.ofList (front ++ text ++ back)).toList = text := by
    rw [String.toList_ofList]
    exact Text.trimBy_append hfront hkept hback
  have hne : text ≠ [] := by
    have hpos : 0 < tag.length := List.length_pos_iff.2 h
    rw [← List.length_pos_iff, hspells.length_eq]
    omega
  exact (decode_eq_ok_iff hstrip).2 ⟨hne, .inl hspells⟩

/-- A tag is read from all its spellings in hexadecimal digits, and from its text in Base64 unless
that happens to consist of hexadecimal digits. -/
theorem decode_spelled (h : tag ≠ []) :
    (∀ front text back : List Char, (∀ c ∈ front, Text.isBlank c = true) → Hex.Spells text tag →
        (∀ c ∈ back, Text.isBlank c = true) →
          decode (String.ofList (front ++ text ++ back)) = .ok tag) ∧
      (decode (encode tag) = .ok tag ↔
        ¬∀ c ∈ (encode tag).toList, (Hex.value? c).isSome = true) ∧
      (tag.length % 3 ≠ 0 → decode (encode tag) = .ok tag) ∧
      ∀ secret message, decode (encode (Signature.tag secret message)) =
        .ok (Signature.tag secret message) := by
  refine ⟨fun front text back hfront hspells hback => decode_of_spells h hfront hspells hback,
    decode_encode_iff h, decode_encode, fun secret message => decode_encode ?_⟩
  rw [length_tag]
  decide

/-- The text of these bytes in Base64 is `abcd`. -/
theorem decode_spelled_abcd :
    ([105, 183, 29] : Bytes) ≠ [] ∧ decode "\t69B71d\u2003" = .ok [105, 183, 29] ∧
      encode [105, 183, 29] = "abcd" ∧ decode (encode [105, 183, 29]) ≠ .ok [105, 183, 29] := by
  have hne : ([105, 183, 29] : Bytes) ≠ [] := List.cons_ne_nil _ _
  have htext : "\t69B71d\u2003" =
      String.ofList (['\t'] ++ ['6', '9', 'B', '7', '1', 'd'] ++ ['\u2003']) := by decide +kernel
  have hspells : Hex.Spells ['6', '9', 'B', '7', '1', 'd'] [105, 183, 29] := by
    unfold Hex.Spells
    decide +kernel
  obtain ⟨hspelled, hround, -⟩ := decode_spelled hne
  refine ⟨hne, ?_, by decide +kernel, ?_⟩
  · rw [htext]
    exact hspelled _ _ _ (List.forall_mem_singleton.2 (by decide)) hspells
      (List.forall_mem_singleton.2 (by decide))
  · have hall : ((encode [105, 183, 29]).toList.all fun c => (Hex.value? c).isSome) = true := by
      decide +kernel
    rw [ne_eq, hround, not_not]
    exact List.all_eq_true.1 hall

end Signature

end WebhookAuth
