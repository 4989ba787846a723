/-!
# Blank characters

White space of any script, and its removal from both ends of a text. A text is blank when nothing
is left of it.
-/

namespace WebhookAuth.Text

/-- White space: the ASCII control spaces and separators, and the Unicode spaces. -/
def isBlank (c : Char) : Bool :=
  let n := c.toNat
  (9 ≤ n && n ≤ 13) || (28 ≤ n && n ≤ 32) || n == 0x85 || n == 0xA0 || n == 0x1680 ||
    (0x2000 ≤ n && n ≤ 0x200A) || n == 0x2028 || n == 0x2029 || n == 0x202F || n == 0x205F ||
    n == 0x3000

/-- A text without the characters of a class at both its ends. -/
def trimBy {α : Type} (p : α → Bool) (text : List α) : List α :=
  ((text.dropWhile p).reverse.dropWhile p).reverse

/-- A text without blank characters at both its ends. -/
def strip (text : List Char) : List Char :=
  trimBy isBlank text

/-- A text of blank characters only; the empty text is one. -/
def isBlankText (text : String) : Bool :=
  text.toList.all isBlank

/-- The part before the first separator, and the part after it if there is one. -/
def cut (separator : Char) (text : List Char) : List Char × Option (List Char) :=
  match text.dropWhile (· != separator) with
  | [] => (text, none)
  | _ :: rest => (text.takeWhile (· != separator), some rest)

/-- Does the part occur somewhere in the text? -/
def contains (part : List Char) : List Char → Bool
  | [] => part.isEmpty
  | c :: rest => part.isPrefixOf (c :: rest) || contains part rest

@[simp] theorem strip_nil : strip [] = [] := rfl

@[simp] theorem isBlankText_empty : isBlankText "" = true := by decide

end WebhookAuth.Text
