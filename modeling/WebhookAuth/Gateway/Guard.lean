import WebhookAuth.Verifier

/-!
# Guarding an application

A guard stands before an HTTP application. It verifies the requests to its paths, answers for the
application where verification fails, and marks every answer with its decision. Requests to other
paths pass untouched.
-/

namespace WebhookAuth

/-- What a guard decides about a request. -/
inductive Decision where
  /-- The request is verified and passes. -/
  | allow
  /-- The request is not verified and passes all the same. -/
  | observe
  /-- The request is not verified and does not pass. -/
  | deny
  deriving DecidableEq, Repr

/-- The name of a decision in a header. -/
def Decision.name : Decision → String
  | .allow => "allow"
  | .observe => "observe"
  | .deny => "deny"

/-- The header that tells the decision. -/
def decisionHeader : String := "X-Webhook-Decision"

/-- The status of a response. -/
structure Status where
  code : Nat
  phrase : String
  deriving DecidableEq, Repr

namespace Status

/-- Success. -/
def ok : Status := ⟨200, "OK"⟩

/-- The request is not authentic. -/
def unauthorized : Status := ⟨401, "Unauthorized"⟩

/-- The status line without the version. -/
def line (s : Status) : String := s!"{s.code} {s.phrase}"

end Status

/-- A response. -/
structure Response where
  status : Status
  fields : Fields
  body : Bytes
  deriving DecidableEq, Repr

/-- An application, as what it answers to the body that it can read, if there is one to read; or the
text of its failure. -/
abbrev Application := Option Bytes → Except String Response

/-- What a guard tells the application about a request. -/
structure RequestState where
  /-- Was the request verified? -/
  checked : Bool
  verdict : Option Verdict
  deriving DecidableEq, Repr

/-- Why a request has no response. -/
inductive GatewayFault where
  | verifier (fault : Fault)
  /-- More bytes are announced than can be asked for. -/
  | lengthTooLarge
  | application (text : String)
  deriving DecidableEq, Repr

/-- The text of the fault. -/
def GatewayFault.message : GatewayFault → String
  | .verifier fault => fault.message
  | .lengthTooLarge => "cannot fit 'int' into an index-sized integer"
  | .application text => text

/-- What came of a request. -/
structure Exchange where
  response : Except GatewayFault Response
  /-- Was the application called? -/
  called : Bool
  /-- The body that the application read. -/
  seen : Option Bytes
  state : Option RequestState
  store : NonceStore
  commands : List SetCommand
  log : List LogEntry

/-- A guard before an application. -/
structure Guard where
  config : Config
  /-- The paths to verify; without them every path is. -/
  paths : Option (List String)
  /-- Must a request be verified to pass? -/
  requireVerified : Bool

namespace Guard

/-- Is a path one to verify? -/
def protects (g : Guard) (path : String) : Bool :=
  g.paths.all (·.contains path)

/-- The exchange of a request that the guard lets be. -/
def bypass (app : Application) (readable : Option Bytes) (store : NonceStore) : Exchange :=
  { response := (app readable).mapError .application
    called := true
    seen := readable
    state := some ⟨false, none⟩
    store
    commands := []
    log := [] }

/-- The exchange of a request that fails before it is verified. -/
def failed (fault : GatewayFault) (store : NonceStore) : Exchange :=
  ⟨.error fault, false, none, none, store, [], []⟩

/-- How a gateway writes what a guard adds to responses. -/
structure Wording where
  /-- The response for the application where verification fails. -/
  denial : Reason → Response
  /-- Marks the fields of the application's response. -/
  mark : Decision → Fields → Fields

/-- Passes a request on and marks the response. -/
def pass (w : Wording) (app : Application) (readable : Option Bytes) (decision : Decision)
    (verdict : Verdict) (o : Verifier.Outcome) : Exchange :=
  { response := ((app readable).mapError .application).map fun response =>
      { response with fields := w.mark decision response.fields }
    called := true
    seen := readable
    state := some ⟨true, some verdict⟩
    store := o.store
    commands := o.commands
    log := o.log }

/-- The exchange that the outcome of a verification decides, if the application can read this
body. -/
def settle (g : Guard) (w : Wording) (app : Application) (readable : Option Bytes)
    (o : Verifier.Outcome) : Exchange :=
  match o.result with
  | .error fault => ⟨.error (.verifier fault), false, none, none, o.store, o.commands, o.log⟩
  | .ok .verified => pass w app readable .allow .verified o
  | .ok (.rejected reason detail) =>
    if g.requireVerified then
      { response := .ok (w.denial reason)
        called := false
        seen := none
        state := some ⟨true, some (.rejected reason detail)⟩
        store := o.store
        commands := o.commands
        log := o.log }
    else pass w app readable .observe (.rejected reason detail) o

end Guard

/-- The body of a denial: an object with the reason. -/
def denialBody (separator : String) (reason : Reason) : Bytes :=
  Utf8.encode ("\x7b\"reason\":" ++ separator ++ "\"" ++ reason.name ++ "\"\x7d")

end WebhookAuth
