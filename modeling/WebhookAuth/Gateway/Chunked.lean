import WebhookAuth.Gateway.Guard

/-!
# Requests in chunks

The gateway of asynchronous servers, on top of a web framework: a request is given as the path that
the framework tells, its header fields and the chunks of its body. Field names of responses are in
lowercase, and the framework puts a field into a response (`Assignment`).
-/

namespace WebhookAuth.Chunked

/-- A request. -/
structure Request where
  /-- The path, as the framework tells it. -/
  path : String
  fields : Fields
  chunks : List Bytes
  deriving DecidableEq, Repr

/-- The body of a request. -/
def Request.body (r : Request) : Bytes := r.chunks.flatten

/-- How a framework gives a field of a response a value. The name is written in lowercase, one field
stands for all of this name, and the others stay as they are and in their order. -/
structure Assignment where
  assign : Fields → String → String → Fields
  assign_eq : ∀ fields name value, ∃ front behind,
    fields.filter (·.1 != Text.lower name) = front ++ behind ∧
      assign fields name value = front ++ (Text.lower name, value) :: behind

/-- Gives a field a value: the first field of the name takes it and further ones go, or it comes
last. -/
def replace (name value : String) : Fields → Fields
  | [] => [(name, value)]
  | field :: rest =>
    if field.1 = name then (name, value) :: rest.filter (·.1 != name)
    else field :: replace name value rest

/-- One field stands for all of the name. -/
theorem exists_replace_eq (name value : String) (fields : Fields) :
    ∃ front behind, fields.filter (·.1 != name) = front ++ behind ∧
      replace name value fields = front ++ (name, value) :: behind := by
  induction fields with
  | nil => exact ⟨[], [], rfl, rfl⟩
  | cons field rest ih =>
    obtain ⟨front, behind, hothers, hreplace⟩ := ih
    by_cases hname : field.1 = name
    · exact ⟨[], rest.filter (·.1 != name), by simp [hname], by simp [replace, hname]⟩
    · exact ⟨field :: front, behind, by simp [hname, hothers], by simp [replace, hname, hreplace]⟩

/-- The assignment that leaves a field where the first of its name was. -/
def Assignment.inPlace : Assignment where
  assign fields name value := replace (Text.lower name) value fields
  assign_eq fields name value := exists_replace_eq (Text.lower name) value fields

/-- The decision header in lowercase. -/
def fieldName : String := Text.lower decisionHeader

/-- What the guard writes: a denial without a space in its body, and a mark in the place of the
application's own. -/
def wording (a : Assignment) : Guard.Wording where
  denial reason :=
    let body := denialBody "" reason
    ⟨.unauthorized,
      [(fieldName, Decision.deny.name), ("content-length", toString body.length),
        ("content-type", "application/json")], body⟩
  mark decision fields := a.assign fields decisionHeader decision.name

/-- Handles a request at a reading of the verifier's clock. -/
def handle (a : Assignment) (g : Guard) (app : Application) (store : NonceStore) (clock : DateTime)
    (r : Request) : Exchange :=
  if !g.protects r.path then Guard.bypass app (some r.body) store
  else g.settle (wording a) app (some r.body)
    (Verifier.verify g.config store ⟨.awaiting, r.body, r.fields, clock⟩)

end WebhookAuth.Chunked
