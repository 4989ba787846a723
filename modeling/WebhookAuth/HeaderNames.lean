import WebhookAuth.Fields
import WebhookAuth.Text.Lowercase

/-!
# Header names

The three headers of a signed delivery, and under which names each is looked for: its canonical name
first, then its aliases, all in lowercase.
-/

namespace WebhookAuth

/-- What a header of a signed delivery carries. -/
inductive Role where
  | timestamp
  | signature
  | nonce
  deriving DecidableEq, Repr

/-- The names of the three headers. -/
structure HeaderNames where
  timestamp : String := "X-Swish-Timestamp"
  signature : String := "X-Swish-Signature"
  nonce : String := "X-Swish-Nonce"
  timestampAliases : List String := ["X-Timestamp"]
  signatureAliases : List String := ["X-Signature"]
  nonceAliases : List String := ["X-Nonce"]
  deriving DecidableEq, Repr

namespace HeaderNames

/-- The canonical name of the header with a role. -/
def canonical (names : HeaderNames) : Role → String
  | .timestamp => names.timestamp
  | .signature => names.signature
  | .nonce => names.nonce

/-- The aliases that belong to a canonical name. Where roles share a canonical name, the aliases of
the last of them count. -/
def aliases? (names : HeaderNames) (name : String) : Option (List String) :=
  if name = names.nonce then some names.nonceAliases
  else if name = names.signature then some names.signatureAliases
  else if name = names.timestamp then some names.timestampAliases
  else none

/-- The names to look under, for one of the canonical names. -/
def lookupOrder? (names : HeaderNames) (name : String) : Option (List String) :=
  (names.aliases? name).map fun aliases => (name :: aliases).map Text.lower

/-- The names to look under for the header with a role. -/
def lookupOrder (names : HeaderNames) (role : Role) : List String :=
  (names.lookupOrder? (names.canonical role)).getD []

/-- Every role has names to look under. -/
theorem lookupOrder?_canonical (names : HeaderNames) (role : Role) :
    names.lookupOrder? (names.canonical role) = some (names.lookupOrder role) := by
  have h : (names.lookupOrder? (names.canonical role)).isSome := by
    cases role <;> simp only [lookupOrder?, aliases?, canonical] <;> grind
  obtain ⟨order, ho⟩ := Option.isSome_iff_exists.1 h
  simp [lookupOrder, ho]

end HeaderNames

end WebhookAuth
