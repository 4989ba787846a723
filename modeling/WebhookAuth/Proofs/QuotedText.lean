import Mathlib.Tactic
import WebhookAuth.Proofs.AsciiText
import WebhookAuth.Text.RawText

/-!
# Quoted text reads back

Inside quotes every code point has one written form, and none is the start of another: the code
point is read back from the form with any text behind it (`CodePoint.readPoint_escape`). So two
texts with the same quoted form are the same (`RawText.quoted_injective`), whichever quote is around
it. Nothing but printable characters is written (`RawText.isPrintable_of_mem_quoted`).
-/

namespace WebhookAuth

/-! ### Numbers in hexadecimal digits -/

namespace Hex

variable {n count : ℕ}

/-- The number that hexadecimal digits spell. -/
def valueOf (digits : List ℕ) : ℕ := digits.foldl (16 * · + ·) 0

theorem valueOf_append_singleton (digits : List ℕ) (d : ℕ) :
    valueOf (digits ++ [d]) = 16 * valueOf digits + d := by
  unfold valueOf
  rw [List.foldl_append, List.foldl_cons, List.foldl_nil]

theorem length_fixed (count n : ℕ) : (fixed count n).length = count := by
  induction count generalizing n with
  | zero => rfl
  | succ count ih => rw [fixed, List.length_append, ih, List.length_singleton]

theorem mem_fixed {c : Char} (h : c ∈ fixed count n) : ∃ d < 16, c = digit d := by
  induction count generalizing n with
  | zero => cases h
  | succ count ih =>
    rw [fixed, List.mem_append, List.mem_singleton] at h
    rcases h with h | rfl
    · exact ih h
    · exact ⟨n % 16, Nat.mod_lt n (by decide), rfl⟩

/-- A number with no more digits than there are places is spelled by them. -/
theorem exists_mapM_fixed (h : n < 16 ^ count) :
    ∃ digits, (fixed count n).mapM value? = some digits ∧ valueOf digits = n := by
  induction count generalizing n with
  | zero =>
    rw [pow_zero, Nat.lt_one_iff] at h
    exact ⟨[], rfl, h.symm⟩
  | succ count ih =>
    have hlast : value? (digit (n % 16)) = some (n % 16) :=
      value?_digit ⟨n % 16, Nat.mod_lt n (by decide)⟩
    obtain ⟨digits, hdigits, hvalue⟩ := ih (n := n / 16) (by rw [pow_succ] at h; omega)
    refine ⟨digits ++ [n % 16], ?_, ?_⟩
    · rw [fixed, List.mapM_append, hdigits, List.mapM_cons, hlast]
      rfl
    · rw [valueOf_append_singleton, hvalue]
      omega

end Hex

namespace Text

variable {c quote : Char}

/-! ### Quotes -/

/-- The quote is one of the two. -/
def IsQuote (quote : Char) : Prop := quote = apostrophe ∨ quote = doubleQuote

theorem isQuote_quoteFor (text : List Char) : IsQuote (quoteFor text) := by
  unfold quoteFor
  split_ifs
  · exact .inr rfl
  · exact .inl rfl

/-! ### Printable characters -/

/-- The visible characters of ASCII and the space are printable, and its controls are not. -/
theorem isPrintable_ascii (hc : c.toNat < 128) :
    isPrintable c = true ↔ 32 ≤ c.toNat ∧ c.toNat ≠ 127 := by
  -- but for the first two, the ranges of the table lie above ASCII
  have htable : unprintableRanges = (0x0, 0x1F) :: (0x7F, 0xA0) :: unprintableRanges.drop 2 := rfl
  have hrest : ∀ range ∈ unprintableRanges.drop 2, 128 ≤ range.1 := by decide +kernel
  have hbehind : ((unprintableRanges.drop 2).any fun range =>
      range.1 ≤ c.toNat && c.toNat ≤ range.2) = false := by
    refine List.any_eq_false.2 fun range hrange => ?_
    have habove := hrest range hrange
    simp only [Bool.and_eq_true, decide_eq_true_eq]
    omega
  unfold isPrintable
  rw [htable, List.any_cons, List.any_cons, hbehind, Bool.or_false, Bool.not_eq_true',
    Bool.or_eq_false_iff]
  simp only [Bool.and_eq_false_iff, decide_eq_false_iff_not]
  omega

/-- A text of visible characters of ASCII and spaces. -/
def isVisible (text : List Char) : Bool := text.all fun c => 32 ≤ c.toNat && c.toNat < 127

theorem isPrintable_of_isVisible {text : List Char} (h : isVisible text = true) :
    ∀ c ∈ text, isPrintable c = true := by
  intro c hc
  have hvisible := List.all_eq_true.1 h c hc
  simp only [Bool.and_eq_true, decide_eq_true_eq] at hvisible
  exact (isPrintable_ascii (by omega)).2 ⟨hvisible.1, by omega⟩

theorem isPrintable_digit {d : ℕ} (h : d < 16) : isPrintable (Hex.digit d) = true := by
  have hvisible : ∀ d < 16, 32 ≤ (Hex.digit d).toNat ∧ (Hex.digit d).toNat < 127 := by decide
  have hd := hvisible d h
  exact (isPrintable_ascii (by omega)).2 ⟨hd.1, by omega⟩

theorem isPrintable_of_mem_fixed {count n : ℕ} : ∀ d ∈ Hex.fixed count n, isPrintable d = true := by
  intro d hd
  obtain ⟨digit, hdigit, rfl⟩ := Hex.mem_fixed hd
  exact isPrintable_digit hdigit

theorem isPrintable_of_isQuote (h : IsQuote quote) : isPrintable quote = true := by
  rcases h with rfl | rfl
  · exact (isPrintable_ascii (by decide)).2 (by decide)
  · exact (isPrintable_ascii (by decide)).2 (by decide)

theorem isPrintable_backslash : isPrintable backslash = true :=
  (isPrintable_ascii (by decide)).2 (by decide)

theorem isPrintable_of_mem_escapeChar (hquote : IsQuote quote) {d : Char}
    (h : d ∈ escapeChar quote c) : isPrintable d = true := by
  have hnone : ∀ d ∈ [], isPrintable d = true := fun d hd => absurd hd List.not_mem_nil
  have hnamed {name : Char} {code : List Char} (hlt : name.toNat < 128)
      (hvisible : 32 ≤ name.toNat ∧ name.toNat ≠ 127) (hcode : ∀ d ∈ code, isPrintable d = true)
      (hd : d ∈ backslash :: name :: code) : isPrintable d = true := by
    rcases List.mem_cons.1 hd with rfl | hd
    · exact isPrintable_backslash
    rcases List.mem_cons.1 hd with rfl | hd
    · exact (isPrintable_ascii hlt).2 hvisible
    · exact hcode d hd
  unfold escapeChar at h
  split_ifs at h with hself hn hr ht hprintable hbyte hword
  · simp only [List.mem_cons, List.not_mem_nil, or_false] at h
    rcases h with rfl | rfl
    · exact isPrintable_backslash
    · rcases hself with rfl | rfl
      · exact isPrintable_backslash
      · exact isPrintable_of_isQuote hquote
  · exact hnamed (by decide) (by decide) hnone h
  · exact hnamed (by decide) (by decide) hnone h
  · exact hnamed (by decide) (by decide) hnone h
  · rw [List.mem_singleton] at h
    exact h ▸ hprintable
  · exact hnamed (by decide) (by decide) isPrintable_of_mem_fixed h
  · exact hnamed (by decide) (by decide) isPrintable_of_mem_fixed h
  · exact hnamed (by decide) (by decide) isPrintable_of_mem_fixed h

end Text

namespace CodePoint

open Text

variable {c d quote : Char} {p : CodePoint} {rest : List Char}

/-! ### One code point -/

/-- The code point with a number. -/
def ofNat (n : ℕ) : CodePoint :=
  if h : 0xD800 ≤ n ∧ n ≤ 0xDFFF then surrogate ⟨n, h.1, h.2⟩ else char (Char.ofNat n)

theorem ofNat_toNat (c : Char) : ofNat c.toNat = char c := by
  have hnot : ¬(0xD800 ≤ c.toNat ∧ c.toNat ≤ 0xDFFF) := by
    rcases c.valid with hlow | ⟨hhigh, -⟩
    · exact fun h => absurd hlow (not_lt.2 h.1)
    · exact fun h => absurd hhigh (not_lt.2 h.2)
  rw [ofNat, dif_neg hnot, Char.ofNat_toNat]

theorem ofNat_code (s : Surrogate) : ofNat s.code = surrogate s := dif_pos ⟨s.lower, s.upper⟩

/-- The code point with a number in so many hexadecimal digits, and the text behind them. -/
def readCode (count : ℕ) (text : List Char) : Option (CodePoint × List Char) :=
  ((text.take count).mapM Hex.value?).map fun digits =>
    (ofNat (Hex.valueOf digits), text.drop count)

/-- What stands behind a backslash: the name of a control, the number of a code point, or a
character for itself. -/
def readEscape : List Char → Option (CodePoint × List Char)
  | [] => none
  | c :: rest =>
    if c = 'n' then some (char '\n', rest)
    else if c = 'r' then some (char '\r', rest)
    else if c = 't' then some (char '\t', rest)
    else if c = 'x' then readCode 2 rest
    else if c = 'u' then readCode 4 rest
    else if c = 'U' then readCode 8 rest
    else some (char c, rest)

/-- The first code point that text inside quotes is for, and the text behind its form. -/
def readPoint : List Char → Option (CodePoint × List Char)
  | [] => none
  | c :: rest => if c = backslash then readEscape rest else some (char c, rest)

theorem readCode_fixed {count n : ℕ} (h : n < 16 ^ count) (rest : List Char) :
    readCode count (Hex.fixed count n ++ rest) = some (ofNat n, rest) := by
  obtain ⟨digits, hdigits, hvalue⟩ := Hex.exists_mapM_fixed h
  unfold readCode
  rw [List.take_left' (Hex.length_fixed _ _), List.drop_left' (Hex.length_fixed _ _), hdigits,
    Option.map_some, hvalue]

theorem readPoint_backslash (text : List Char) : readPoint (backslash :: text) = readEscape text :=
  rfl

theorem readEscape_word (text : List Char) : readEscape ('u' :: text) = readCode 4 text := rfl

theorem readPoint_escapeChar (hquote : IsQuote quote) (c : Char) (rest : List Char) :
    readPoint (escapeChar quote c ++ rest) = some (char c, rest) := by
  have hx (text : List Char) : readEscape ('x' :: text) = readCode 2 text := rfl
  have hU (text : List Char) : readEscape ('U' :: text) = readCode 8 text := rfl
  unfold escapeChar
  split_ifs with hself hn hr ht hprintable hbyte hword
  · -- neither quote is the name of an escape
    have hitself : c = backslash ∨ c = apostrophe ∨ c = doubleQuote := by
      rcases hself with rfl | rfl
      · exact .inl rfl
      · exact .inr hquote
    rw [List.cons_append, readPoint_backslash]
    rcases hitself with rfl | rfl | rfl <;> rfl
  · rw [hn]
    rfl
  · rw [hr]
    rfl
  · rw [ht]
    rfl
  · rw [not_or] at hself
    exact if_neg hself.1
  · rw [List.cons_append, List.cons_append, readPoint_backslash, hx, readCode_fixed hbyte,
      ofNat_toNat]
  · rw [List.cons_append, List.cons_append, readPoint_backslash, readEscape_word,
      readCode_fixed hword, ofNat_toNat]
  · have hbound : c.toNat < 16 ^ 8 := c.val.toNat_lt
    rw [List.cons_append, List.cons_append, readPoint_backslash, hU, readCode_fixed hbound,
      ofNat_toNat]

/-- A code point is read back from its form, whatever stands behind it. -/
theorem readPoint_escape (hquote : IsQuote quote) (p : CodePoint) (rest : List Char) :
    readPoint (p.escape quote ++ rest) = some (p, rest) := by
  cases p with
  | char c => exact readPoint_escapeChar hquote c rest
  | surrogate s =>
    have hupper := s.upper
    rw [escape, List.cons_append, List.cons_append, readPoint_backslash, readEscape_word,
      readCode_fixed (by omega), ofNat_code]

theorem escape_ne_nil (quote : Char) (p : CodePoint) : p.escape quote ≠ [] := by
  cases p with
  | char c =>
    dsimp only [escape]
    unfold escapeChar
    split_ifs <;> simp
  | surrogate s => exact List.cons_ne_nil _ _

/-- What stands between quotes tells the text. -/
theorem flatMap_escape_injective (hquote : IsQuote quote) :
    Function.Injective fun text : RawText => text.flatMap (escape quote) := by
  intro text text' h
  dsimp only at h
  induction text generalizing text' with
  | nil =>
    cases text' with
    | nil => rfl
    | cons d text' =>
      rw [List.flatMap_nil, List.flatMap_cons, eq_comm, List.append_eq_nil_iff] at h
      exact absurd h.1 (escape_ne_nil quote d)
  | cons p text ih =>
    cases text' with
    | nil =>
      rw [List.flatMap_nil, List.flatMap_cons, List.append_eq_nil_iff] at h
      exact absurd h.1 (escape_ne_nil quote p)
    | cons d text' =>
      -- the first code points are read back from the same text
      have hread := readPoint_escape hquote p (text.flatMap (escape quote))
      rw [← List.flatMap_cons, h, List.flatMap_cons, readPoint_escape hquote,
        Option.some.injEq, Prod.mk.injEq] at hread
      rw [hread.1, ih hread.2.symm]

theorem isPrintable_of_mem_escape (hquote : IsQuote quote) (h : d ∈ p.escape quote) :
    isPrintable d = true := by
  cases p with
  | char c => exact isPrintable_of_mem_escapeChar hquote h
  | surrogate s =>
    rcases List.mem_cons.1 h with rfl | h
    · exact isPrintable_backslash
    rcases List.mem_cons.1 h with rfl | h
    · exact (isPrintable_ascii (by decide)).2 (by decide)
    · exact isPrintable_of_mem_fixed d h

end CodePoint

/-! ### Texts -/

namespace RawText

open Text

variable {c : Char}

theorem toList_quoted (text : RawText) :
    text.quoted.toList = quoteFor (text.filterMap CodePoint.char?) ::
      (text.flatMap (CodePoint.escape (quoteFor (text.filterMap CodePoint.char?))) ++
        [quoteFor (text.filterMap CodePoint.char?)]) :=
  String.toList_ofList

/-- Text in quotes tells the text. -/
theorem quoted_injective : Function.Injective quoted := by
  intro text text' h
  have hlist := congrArg String.toList h
  rw [toList_quoted, toList_quoted, List.cons.injEq] at hlist
  obtain ⟨hquote, hbody⟩ := hlist
  rw [hquote] at hbody
  exact CodePoint.flatMap_escape_injective (isQuote_quoteFor _) (List.append_cancel_right hbody)

/-- Text in quotes is printable, whatever the text is. -/
theorem isPrintable_of_mem_quoted {text : RawText} (h : c ∈ text.quoted.toList) :
    isPrintable c = true := by
  have hquote := isQuote_quoteFor (text.filterMap CodePoint.char?)
  rw [toList_quoted, List.mem_cons, List.mem_append, List.mem_flatMap, List.mem_singleton] at h
  rcases h with rfl | ⟨p, -, hp⟩ | rfl
  · exact isPrintable_of_isQuote hquote
  · exact CodePoint.isPrintable_of_mem_escape hquote hp
  · exact isPrintable_of_isQuote hquote

/-- A text in quotes, or `None` for an absent one. -/
def quotedOption (text : Option RawText) : String := text.elim "None" quoted

/-- An absent text is not written like any text. -/
theorem quotedOption_injective : Function.Injective quotedOption := by
  have hnone (text : RawText) : text.quoted ≠ "None" := by
    intro h
    have hlist := congrArg String.toList h
    rw [toList_quoted] at hlist
    have hquote : quoteFor (text.filterMap CodePoint.char?) = 'N' := (List.cons.inj hlist).1
    rcases isQuote_quoteFor (text.filterMap CodePoint.char?) with hq | hq
    · exact absurd (hq.symm.trans hquote) (by decide)
    · exact absurd (hq.symm.trans hquote) (by decide)
  intro text text' h
  cases text with
  | none =>
    cases text' with
    | none => rfl
    | some text' => exact absurd h.symm (hnone text')
  | some text =>
    cases text' with
    | none => exact absurd h (hnone text)
    | some text' => exact congrArg some (quoted_injective h)

theorem isPrintable_of_mem_quotedOption {text : Option RawText}
    (h : c ∈ (quotedOption text).toList) : isPrintable c = true := by
  cases text with
  | none =>
    have hnone : isVisible "None".toList = true := by decide +kernel
    exact isPrintable_of_isVisible hnone c h
  | some text => exact isPrintable_of_mem_quoted h

end RawText

end WebhookAuth
