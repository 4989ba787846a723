import WebhookAuth.Gateway.Guard

/-!
# Requests as parameters

The gateway of the common gateway interface: a request is given as text parameters, with the header
fields under changed names, and a stream with the body. What the guard reads from the stream is put
back for the application.
-/

namespace WebhookAuth.Cgi

open WebhookAuth.Text

/-- A request: its parameters, and the stream with its body if there is one. -/
structure Request where
  parameters : Fields
  stream : Option Bytes
  deriving DecidableEq, Repr

/-- The path of a request. -/
def Request.path (r : Request) : String :=
  (r.parameters.get? "PATH_INFO").getD "/"

/-- The name of the header that a variable carries, if it does. -/
def headerName? (name : String) : Option String :=
  if "HTTP_".toList.isPrefixOf name.toList then
    some (lower (String.ofList ((name.toList.drop 5).map fun c => if c = '_' then '-' else c)))
  else if name = "CONTENT_TYPE" then some "content-type"
  else if name = "CONTENT_LENGTH" then some "content-length"
  else none

/-- The header fields of a request. -/
def Request.fields (r : Request) : Fields :=
  Fields.ofAssignments
    (r.parameters.filterMap fun v => (headerName? v.1).map (·, v.2))

/-- The length that the parameters announce, if they announce one. -/
def Request.length? (r : Request) : Option Int := do
  let value ← r.parameters.get? "CONTENT_LENGTH"
  let whole ← Numeral.whole? value.toList
  whole.value.toOption

/-- The most bytes that can be asked for. -/
def maxLength : Int := 9223372036854775807

/-- The body that is verified, and the stream that is left for the application. Without a stream or
an announced length above zero nothing is read, and the stream stays as it is. -/
def Request.readBody (r : Request) : Except GatewayFault (Bytes × Option Bytes) :=
  match r.length?, r.stream with
  | some length, some stream =>
    if length ≤ 0 then .ok ([], some stream)
    else if maxLength < length then .error .lengthTooLarge
    else
      let body := stream.take length.toNat
      .ok (body, some body)
  | _, stream => .ok ([], stream)

/-- What the guard writes: a denial with a space in its body, and a mark behind all fields. -/
def wording : Guard.Wording where
  denial reason :=
    let body := denialBody " " reason
    ⟨.unauthorized,
      [("Content-Type", "application/json"), ("Content-Length", toString body.length),
        (decisionHeader, Decision.deny.name)], body⟩
  mark decision fields := fields ++ [(decisionHeader, decision.name)]

/-- Handles a request at a reading of the verifier's clock. -/
def handle (g : Guard) (app : Application) (store : NonceStore) (clock : DateTime) (r : Request) :
    Exchange :=
  if !g.protects r.path then Guard.bypass app r.stream store
  else match r.readBody with
    | .error fault => Guard.failed fault store
    | .ok (body, readable) =>
      g.settle wording app readable
        (Verifier.verify g.config store ⟨.blocking, body, r.fields, clock⟩)

end WebhookAuth.Cgi
