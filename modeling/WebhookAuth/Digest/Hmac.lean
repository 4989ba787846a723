import WebhookAuth.Digest.Sha256

/-!
# HMAC-SHA-256

Authentication of a message by a secret: the hash of the padded secret and the hash of the padded
secret and the message.
-/

namespace WebhookAuth.Hmac

/-- The length of a block of the hash function. -/
def blockLength : Nat := 64

/-- The secret as one block: a longer one is hashed, and zeros follow. -/
def block (secret : Bytes) : Bytes :=
  let short := if blockLength < secret.length then Sha256.hash secret else secret
  short ++ List.replicate (blockLength - short.length) 0

/-- The tag of a message under a secret, in 32 bytes. -/
def tag (secret message : Bytes) : Bytes :=
  let inner := Sha256.hash ((block secret).map (· ^^^ 0x36) ++ message)
  Sha256.hash ((block secret).map (· ^^^ 0x5c) ++ inner)

@[simp] theorem length_tag (secret message : Bytes) : (tag secret message).length = 32 :=
  Sha256.length_hash _

end WebhookAuth.Hmac
