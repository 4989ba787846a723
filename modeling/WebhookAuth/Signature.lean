import WebhookAuth.Digest.Hmac
import WebhookAuth.Encoding.Base64
import WebhookAuth.Payload
import WebhookAuth.Text.Blank

/-!
# Signatures

The literal timestamp, the nonce and the body, parted by line feeds, are authenticated by a tag. A
signature header gives the tag in Base64 or in hexadecimal digits.
-/

namespace WebhookAuth

/-- Why the value of a signature header gives no tag. -/
inductive SignatureError where
  | empty
  | undecodable
  deriving DecidableEq, Repr

/-- The text of the refusal. -/
def SignatureError.message : SignatureError → String
  | .empty => "Empty signature"
  | .undecodable => "Signature is neither hex nor base64"

namespace Signature

/-- The byte of a line feed. -/
def lineFeed : UInt8 := 10

/-- The bytes that are signed; an absent nonce is signed as the empty text. -/
def canonicalMessage (timestamp : String) (nonce : Option String) (body : Bytes) : Bytes :=
  Utf8.encode timestamp ++ lineFeed :: Utf8.encode (nonce.getD "") ++ lineFeed :: body

/-- The tag of a message. -/
def tag (secret message : Bytes) : Bytes :=
  Hmac.tag secret message

/-- The text of a tag in an outgoing header. -/
def encode (tag : Bytes) : String :=
  String.ofList (Base64.encode tag)

/-- Is the text made of pairs of hexadecimal digits? -/
def isHex (text : List Char) : Bool :=
  text.length % 2 == 0 && text.all fun c => (Hex.value? c).isSome

/-- The tag that the value of a signature header gives. Text that could be either is hexadecimal. -/
def decode (value : String) : Except SignatureError Bytes :=
  let text := Text.strip value.toList
  if text.isEmpty then .error .empty
  else
    match if isHex text then Hex.decode? text else Base64.decode? text with
    | some tag => .ok tag
    | none => .error .undecodable

/-- Does the value of a signature header give the tag of the message? -/
def isValid (secret message : Bytes) (value : String) : Except SignatureError Bool :=
  (decode value).map (· == tag secret message)

end Signature

end WebhookAuth
