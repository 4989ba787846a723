import WebhookAuth.Text.RawText

/-!
# Payloads

Bodies and secrets are bytes; where they are given as text, its UTF-8 bytes are meant. Raw text may
have none.
-/

namespace WebhookAuth

/-- A body or a secret, given as text or as bytes. -/
inductive Payload (Value : Type := String) where
  | text (s : Value)
  | raw (bytes : Bytes)
  deriving DecidableEq, Repr

/-- The bytes that are meant. -/
def Payload.bytes : Payload → Bytes
  | .text s => Utf8.encode s
  | .raw bytes => bytes

/-- The bytes that are meant, if the text has any. -/
def Payload.encode : Payload RawText → Except Unencodable Bytes
  | .text s => s.encode
  | .raw bytes => .ok bytes

@[simp] theorem Payload.bytes_text (s : String) : (Payload.text s).bytes = Utf8.encode s := rfl

@[simp] theorem Payload.bytes_raw (bytes : Bytes) : (Payload.raw bytes).bytes = bytes := rfl

end WebhookAuth
