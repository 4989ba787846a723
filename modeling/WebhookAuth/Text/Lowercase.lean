import WebhookAuth.Text.CaseTable

/-!
# Lowercase

Full lowercase of a text. All but two characters change on their own: a capital sigma at the end of
a word becomes the final sigma, and a capital I with a dot becomes two characters.
-/

namespace WebhookAuth.Text

/-- The lowercase form of an ASCII character. -/
def lowerAscii (c : Char) : Char :=
  if 'A' ≤ c ∧ c ≤ 'Z' then Char.ofNat (c.toNat + 32) else c

/-- The lowercase form of a character that has one of a single character, else the character. -/
def lowerChar (c : Char) : Char :=
  if c.toNat < 128 then lowerAscii c
  else match caseRuns.find? (·.covers c.toNat) with
    | some run => Char.ofNat ((c.toNat : Int) + run.shift).toNat
    | none => c

/-- Has the character case, without being transparent? -/
def isCased (c : Char) : Bool :=
  casedRanges.any fun range => range.1 ≤ c.toNat && c.toNat ≤ range.2

/-- Is the character transparent when the context of a final sigma is looked at? -/
def isCaseIgnorable (c : Char) : Bool :=
  caseIgnorableRanges.any fun range => range.1 ≤ c.toNat && c.toNat ≤ range.2

/-- Is the nearest character that is not transparent one with case? -/
def meetsCased (text : List Char) : Bool :=
  (text.dropWhile isCaseIgnorable).head?.any isCased

/-- The lowercase form of a character between the text before it, nearest first, and after it. -/
def lowerWithin (before : List Char) (c : Char) (after : List Char) : List Char :=
  if c = '\u03a3' then
    [if meetsCased before && !meetsCased after then '\u03c2' else '\u03c3']
  else if c = '\u0130' then ['i', '\u0307']
  else [lowerChar c]

/-- The lowercase form of a text that continues the text before it, nearest first. -/
def lowerFrom (before : List Char) : List Char → List Char
  | [] => []
  | c :: after => lowerWithin before c after ++ lowerFrom (c :: before) after

/-- The lowercase form of a text. -/
def lower (text : String) : String :=
  String.ofList (lowerFrom [] text.toList)

@[simp] theorem lowerFrom_nil (before : List Char) : lowerFrom before [] = [] := rfl

@[simp] theorem lowerFrom_cons (before : List Char) (c : Char) (after : List Char) :
    lowerFrom before (c :: after) = lowerWithin before c after ++ lowerFrom (c :: before) after :=
  rfl

@[simp] theorem toList_lower (text : String) : (lower text).toList = lowerFrom [] text.toList := by
  simp [lower]

end WebhookAuth.Text
