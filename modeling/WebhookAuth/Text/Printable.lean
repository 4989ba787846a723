import WebhookAuth.Text.UnprintableTable

/-!
# Printable characters

The characters that a log line or an error text may show as they are.
-/

namespace WebhookAuth.Text

/-- Has the character a visible form of its own, or is it the ASCII space? -/
def isPrintable (c : Char) : Bool :=
  !unprintableRanges.any fun range => range.1 ≤ c.toNat && c.toNat ≤ range.2

end WebhookAuth.Text
