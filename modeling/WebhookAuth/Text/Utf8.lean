import WebhookAuth.Encoding.Hex

/-!
# UTF-8

The bytes of a text, which strings always have since they hold no surrogates.
-/

namespace WebhookAuth.Utf8

/-- The UTF-8 bytes of a text. -/
def encode (text : String) : Bytes :=
  text.toList.flatMap String.utf8EncodeChar

@[simp] theorem encode_empty : encode "" = [] := rfl

end WebhookAuth.Utf8
