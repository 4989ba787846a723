import WebhookAuth.Encoding.Hex
import WebhookAuth.Text.Printable

/-!
# Quoted text

A text between quotes on one line, with an escape for everything that is not printable. The quote is
an apostrophe unless the text holds apostrophes and no double quote.
-/

namespace WebhookAuth.Text

/-- The quote that is used unless the text speaks against it. -/
def apostrophe : Char := '\x27'

/-- The quote for a text with apostrophes and no double quote. -/
def doubleQuote : Char := '\x22'

/-- The character that opens an escape. -/
def backslash : Char := '\x5c'

/-- The quote around a text. -/
def quoteFor (text : List Char) : Char :=
  if text.contains apostrophe && !text.contains doubleQuote then doubleQuote else apostrophe

/-- One character inside quotes. -/
def escapeChar (quote c : Char) : List Char :=
  if c = backslash ∨ c = quote then [backslash, c]
  else if c = '\n' then [backslash, 'n']
  else if c = '\r' then [backslash, 'r']
  else if c = '\t' then [backslash, 't']
  else if isPrintable c then [c]
  else if c.toNat < 0x100 then backslash :: 'x' :: Hex.fixed 2 c.toNat
  else if c.toNat < 0x10000 then backslash :: 'u' :: Hex.fixed 4 c.toNat
  else backslash :: 'U' :: Hex.fixed 8 c.toNat

/-- A text in quotes. -/
def quoted (text : String) : String :=
  let quote := quoteFor text.toList
  String.ofList (quote :: (text.toList.flatMap (escapeChar quote) ++ [quote]))

/-- A text in quotes, or `None` for an absent one. -/
def quotedOption : Option String → String
  | none => "None"
  | some text => quoted text

end WebhookAuth.Text
