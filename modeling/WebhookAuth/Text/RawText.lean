import WebhookAuth.Text.Blank
import WebhookAuth.Text.Quoted
import WebhookAuth.Text.Utf8

/-!
# Raw text

Text as it comes in from outside: code points, some of which may be surrogates on their own. A
surrogate stands for no character and has no UTF-8 bytes, so that a text with one cannot be encoded;
it can still be trimmed and quoted. A text without surrogates is the string of its characters
(`RawText.characters_eq_ok_iff`).
-/

namespace WebhookAuth

/-- A surrogate. -/
structure Surrogate where
  code : Nat
  lower : 0xD800 ≤ code
  upper : code ≤ 0xDFFF
  deriving DecidableEq, Repr

/-- A code point: a character, or a surrogate on its own. -/
inductive CodePoint where
  | char (c : Char)
  | surrogate (s : Surrogate)
  deriving DecidableEq, Repr

namespace CodePoint

/-- The character that the code point is, if it is one. -/
def char? : CodePoint → Option Char
  | char c => some c
  | surrogate _ => none

/-- Is the code point a surrogate? -/
def isSurrogate (p : CodePoint) : Bool := p.char?.isNone

/-- Is the code point white space? No surrogate is. -/
def isBlank (p : CodePoint) : Bool := p.char?.any Text.isBlank

/-- The code point inside quotes. -/
def escape (quote : Char) : CodePoint → List Char
  | char c => Text.escapeChar quote c
  | surrogate s => Text.backslash :: 'u' :: Hex.fixed 4 s.code

@[simp] theorem char?_char (c : Char) : (char c).char? = some c := rfl

@[simp] theorem isSurrogate_char (c : Char) : (char c).isSurrogate = false := rfl

@[simp] theorem isSurrogate_surrogate (s : Surrogate) : (surrogate s).isSurrogate = true := rfl

end CodePoint

/-- Why a text cannot be encoded: its first surrogates in a row. -/
structure Unencodable where
  /-- How many code points stand before them. -/
  place : Nat
  first : Surrogate
  /-- How many more stand right behind the first. -/
  following : Nat
  deriving DecidableEq, Repr

/-- The text of the refusal. -/
def Unencodable.message (e : Unencodable) : String :=
  if e.following = 0 then
    let code := String.ofList (Text.backslash :: 'u' :: Hex.fixed 4 e.first.code)
    s!"'utf-8' codec can't encode character '{code}' in position {e.place}: surrogates not allowed"
  else
    let last := e.place + e.following
    s!"'utf-8' codec can't encode characters in position {e.place}-{last}: surrogates not allowed"

/-- A text as it comes in. -/
abbrev RawText := List CodePoint

namespace RawText

/-- The raw text of a string. -/
def ofString (s : String) : RawText := s.toList.map .char

/-- The first surrogates in a row of a text behind this many code points, if it holds any. -/
def surrogates? (place : Nat) : RawText → Option Unencodable
  | [] => none
  | .char _ :: rest => surrogates? (place + 1) rest
  | .surrogate s :: rest => some ⟨place, s, (rest.takeWhile CodePoint.isSurrogate).length⟩

/-- The characters of a text, if it has no surrogates. -/
def characters (text : RawText) : Except Unencodable String :=
  match text.surrogates? 0 with
  | some e => .error e
  | none => .ok (String.ofList (text.filterMap CodePoint.char?))

/-- The UTF-8 bytes of a text, if it has no surrogates. -/
def encode (text : RawText) : Except Unencodable Bytes := text.characters.map Utf8.encode

/-- A text of white space only; the empty text is one. -/
def isBlank (text : RawText) : Bool := text.all CodePoint.isBlank

/-- A text without white space at both its ends. -/
def strip (text : RawText) : RawText := Text.trimBy CodePoint.isBlank text

/-- A text in quotes. -/
def quoted (text : RawText) : String :=
  let quote := Text.quoteFor (text.filterMap CodePoint.char?)
  String.ofList (quote :: (text.flatMap (CodePoint.escape quote) ++ [quote]))

theorem filterMap_char?_ofString (s : String) :
    (ofString s).filterMap CodePoint.char? = s.toList := by
  simp [ofString, List.filterMap_map, Function.comp_def]

theorem surrogates?_map_char (place : Nat) (cs : List Char) :
    surrogates? place (cs.map .char) = none := by
  induction cs generalizing place with
  | nil => rfl
  | cons c cs ih => exact ih (place + 1)

theorem eq_map_char {place : Nat} {text : RawText} (h : surrogates? place text = none) :
    text = (text.filterMap CodePoint.char?).map .char := by
  induction text generalizing place with
  | nil => rfl
  | cons p rest ih =>
    cases p with
    | char c => exact congrArg (CodePoint.char c :: ·) (ih h)
    | surrogate s => cases h

@[simp] theorem characters_ofString (s : String) : (ofString s).characters = .ok s := by
  unfold characters
  rw [filterMap_char?_ofString, ofString, surrogates?_map_char, String.ofList_toList]

theorem surrogates?_eq_none_iff {place : Nat} {text : RawText} :
    surrogates? place text = none ↔ ∀ p ∈ text, p.isSurrogate = false := by
  induction text generalizing place with
  | nil => simp [surrogates?]
  | cons p rest ih =>
    cases p with
    | char c => simp [surrogates?, ih]
    | surrogate s => simp [surrogates?]

/-- A text cannot be encoded just if it has a surrogate. -/
theorem exists_characters_eq_error_iff {text : RawText} :
    (∃ e, text.characters = .error e) ↔ ∃ p ∈ text, p.isSurrogate = true := by
  have hnone := @surrogates?_eq_none_iff 0 text
  unfold characters
  cases hfound : text.surrogates? 0 with
  | none => simpa using hnone.1 hfound
  | some e =>
    rw [hfound] at hnone
    simpa using hnone

/-- A text has characters just if it is the raw text of a string. -/
theorem characters_eq_ok_iff {text : RawText} {s : String} :
    text.characters = .ok s ↔ text = ofString s := by
  refine ⟨fun h => ?_, fun h => h ▸ characters_ofString s⟩
  unfold characters at h
  cases hfound : text.surrogates? 0 with
  | some e =>
    rw [hfound] at h
    cases h
  | none =>
    rw [hfound] at h
    cases h
    rw [ofString, String.toList_ofList]
    exact eq_map_char hfound

theorem toOption_characters_eq_some_iff {text : RawText} {s : String} :
    text.characters.toOption = some s ↔ text = ofString s := by
  rw [← characters_eq_ok_iff]
  cases text.characters <;> simp [Except.toOption]

theorem bind_characters_eq_some_iff {text : Option RawText} {s : String} :
    (text.bind fun text => text.characters.toOption) = some s ↔ text = some (.ofString s) := by
  simp only [Option.bind_eq_some_iff, toOption_characters_eq_some_iff, exists_eq_right]

theorem ofString_inj {s s' : String} : ofString s = ofString s' ↔ s = s' := by
  refine ⟨fun h => ?_, fun h => h ▸ rfl⟩
  have hcharacters := characters_ofString s
  rw [h, characters_ofString] at hcharacters
  exact (Except.ok.inj hcharacters).symm

@[simp] theorem encode_ofString (s : String) : (ofString s).encode = .ok (Utf8.encode s) := by
  rw [encode, characters_ofString]
  rfl

/-- The bytes of a text are those of its string. -/
theorem encode_eq_ok_iff {text : RawText} {bytes : Bytes} :
    text.encode = .ok bytes ↔ ∃ s, text = ofString s ∧ Utf8.encode s = bytes := by
  simp only [← characters_eq_ok_iff]
  unfold encode
  cases text.characters <;> simp [Except.map]

theorem exists_encode_eq_error_iff {text : RawText} :
    (∃ e, text.encode = .error e) ↔ ∃ p ∈ text, p.isSurrogate = true := by
  rw [← exists_characters_eq_error_iff]
  unfold encode
  cases text.characters <;> simp [Except.map]

@[simp] theorem isBlank_ofString (s : String) : (ofString s).isBlank = Text.isBlankText s := by
  unfold isBlank ofString Text.isBlankText
  rw [List.all_map]
  rfl

@[simp] theorem quoted_ofString (s : String) : (ofString s).quoted = Text.quoted s := by
  unfold quoted Text.quoted
  dsimp only
  rw [filterMap_char?_ofString, ofString, List.flatMap_map]
  rfl

end RawText

end WebhookAuth
