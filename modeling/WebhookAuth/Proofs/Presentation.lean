import WebhookAuth.Proofs.Callers
import WebhookAuth.Proofs.HeaderVariables
import WebhookAuth.Proofs.Mediation

/-!
# One request, two gateways

A request is presented as parameters with a stream, or in chunks. In both forms the guard finds the
same path, the same body and, under every name but those that describe the body, the same headers;
so each gateway settles the same call of the verifier (`Cgi.handle_of_presents`,
`Chunked.handle_of_presents`), and what comes of the request is the same but for the wording
(`gateways_agree`).
-/

namespace WebhookAuth

open Verifier

/-! ### Requests and their presentations -/

/-- A request as its sender means it. -/
structure HttpRequest where
  path : String
  fields : Fields
  body : Bytes
  isToken : ∀ field ∈ fields, IsToken field.1
  /-- Names differ in more than letter case. -/
  distinct : ((folded fields).map (·.1)).Nodup
  /-- There are no more bytes than a length can count. -/
  length_le : (body.length : ℤ) ≤ Cgi.maxLength

/-- A request is presented as parameters and a stream: its path, the length of its body, and a
variable for each header but those that describe the body. Further parameters, among them one for
the type of the body, are no variables of headers. -/
structure Cgi.Request.Presents (r : Cgi.Request) (m : HttpRequest) : Prop where
  path_eq : r.parameters.get? "PATH_INFO" = some m.path
  length_eq : r.parameters.get? "CONTENT_LENGTH" = some (toString m.body.length)
  stream_eq : r.stream = some m.body
  conveys : r.Conveys m.fields

/-- A request is presented in chunks: its path, its headers up to the letter case of their names,
and its body in any parts. -/
structure Chunked.Request.Presents (r : Chunked.Request) (m : HttpRequest) : Prop where
  path_eq : r.path = m.path
  folded_eq : folded r.fields = folded m.fields
  body_eq : r.body = m.body

namespace HttpRequest

/-- The parameter for a header: a variable, or one of the parameters that describe the body. The
length of the body has its parameter elsewhere. -/
def parameter? (field : String × String) : Option (String × String) :=
  if Text.lower field.1 = "content-type" then some ("CONTENT_TYPE", field.2)
  else if Text.lower field.1 = "content-length" then none
  else some (variableName field.1, field.2)

/-- The request as parameters and a stream. -/
def toCgi (m : HttpRequest) : Cgi.Request where
  parameters := ("PATH_INFO", m.path) :: ("CONTENT_LENGTH", toString m.body.length) ::
    m.fields.filterMap parameter?
  stream := some m.body

/-- The request in chunks. -/
def toChunked (m : HttpRequest) (chunks : List Bytes) : Chunked.Request :=
  ⟨m.path, m.fields, chunks⟩

theorem parameter?_eq_some_iff {field parameter : String × String} :
    parameter? field = some parameter ∧ isVariable parameter.1 = true ↔
      Text.lower field.1 ∉ bodyNames ∧ parameter = (variableName field.1, field.2) := by
  have htype : ¬isVariable "CONTENT_TYPE" = true := by decide
  unfold parameter? bodyNames
  split_ifs with hname hname
  · rw [hname, Option.some.injEq]
    constructor
    · rintro ⟨rfl, hvariable⟩
      exact absurd hvariable htype
    · rintro ⟨hbody, -⟩
      exact absurd (by decide) hbody
  · rw [hname]
    constructor
    · rintro ⟨hnone, -⟩
      cases hnone
    · rintro ⟨hbody, -⟩
      exact absurd (by decide) hbody
  · rw [Option.some.injEq]
    constructor
    · rintro ⟨rfl, -⟩
      exact ⟨by simp [*], rfl⟩
    · rintro ⟨-, rfl⟩
      exact ⟨rfl, isVariable_variableName _⟩

/-- Every request can be presented as parameters and a stream. -/
theorem presents_toCgi (m : HttpRequest) : m.toCgi.Presents m := by
  refine ⟨?_, ?_, rfl, fun parameter => ?_⟩
  · exact (Fields.get?_cons _ _ _ _).trans (if_pos rfl)
  · have hname : "CONTENT_LENGTH" ≠ "PATH_INFO" := by decide
    unfold toCgi
    rw [Fields.get?_cons, if_neg hname, Fields.get?_cons, if_pos rfl]
  · have hpath : ¬isVariable "PATH_INFO" = true := by decide
    have hlength : ¬isVariable "CONTENT_LENGTH" = true := by decide
    constructor
    · rintro ⟨hmem, hvariable⟩
      rcases List.mem_cons.1 hmem with rfl | hmem
      · exact absurd hvariable hpath
      rcases List.mem_cons.1 hmem with rfl | hmem
      · exact absurd hvariable hlength
      obtain ⟨field, hfield, heq⟩ := List.mem_filterMap.1 hmem
      exact ⟨field, hfield, parameter?_eq_some_iff.1 ⟨heq, hvariable⟩⟩
    · rintro ⟨field, hfield, hvariable⟩
      obtain ⟨heq, hvariable⟩ := parameter?_eq_some_iff.2 hvariable
      refine ⟨?_, hvariable⟩
      exact List.mem_cons_of_mem _
        (List.mem_cons_of_mem _ (List.mem_filterMap.2 ⟨field, hfield, heq⟩))

/-- Every request can be presented in any chunks that make up its body. -/
theorem presents_toChunked (m : HttpRequest) {chunks : List Bytes}
    (hchunks : chunks.flatten = m.body) : (m.toChunked chunks).Presents m :=
  ⟨rfl, rfl, hchunks⟩

end HttpRequest

/-! ### What the guard finds -/

/-- No header of a delivery is looked for under a name that describes the body. -/
def HeaderNames.SpareBody (names : HeaderNames) : Prop :=
  ∀ role, ∀ name ∈ names.lookupOrder role, name ∉ bodyNames

section Found

variable {m : HttpRequest} {names : HeaderNames} {fields fields' : Fields} {config : Config}

/-- A delivery depends on its fields only through what they say under names of headers. -/
theorem Delivery.ofFields_congr (hnames : names.SpareBody)
    (h : ∀ name ∉ bodyNames, firstValue? fields name = firstValue? fields' name) (body : Bytes) :
    Delivery.ofFields names body fields = Delivery.ofFields names body fields' := by
  refine (Delivery.ofFields_eq_iff body).2 fun role => ?_
  exact header?_congr fun name hname => h name (hnames role name hname)

/-- Over a local store the outcome of a call depends on its delivery and reference time alone. -/
theorem Verifier.verify_memory_congr {call call' : Call}
    (hdelivery : call.delivery config = call'.delivery config) (hnow : call.now = call'.now)
    (s : MemoryStore) : verify config (.memory s) call = verify config (.memory s) call' := by
  -- a local store does not look at the caller, so the two calls may have the same one
  have heven : (NonceStore.memory s).IsEven := trivial
  rw [← verify_through heven config call call'.caller]
  have hthrough : (call.through call'.caller).delivery config = call'.delivery config := hdelivery
  have hsame : (call.through call'.caller).now = call'.now := hnow
  unfold verify verifyOver
  rw [hthrough, hsame]
  rfl

namespace Cgi.Request.Presents

variable {r : Request} (h : r.Presents m)
include h

theorem path : r.path = m.path := by
  unfold Request.path
  rw [h.path_eq]
  rfl

theorem length?_eq : r.length? = some (m.body.length : ℤ) := by
  have hlength := m.length_le
  have hdigits : (Nat.toDigits 10 m.body.length).length ≤ 19 := by
    rw [Nat.length_toDigits_le_iff (by decide) (by decide)]
    unfold maxLength at hlength
    omega
  have hmax : 19 ≤ Numeral.maxDigits := by decide
  obtain ⟨whole, hwhole, hvalue⟩ := Numeral.whole?_toString (hdigits.trans hmax)
  unfold length?
  rw [h.length_eq, Option.bind_eq_bind, Option.bind_some, hwhole, Option.bind_eq_bind,
    Option.bind_some, hvalue]
  rfl

/-- The whole body is verified, and left for the application. -/
theorem readBody_eq : r.readBody = .ok (m.body, some m.body) := by
  unfold readBody
  rw [h.length?_eq, h.stream_eq]
  dsimp only
  split_ifs with hempty hlarge
  · -- nothing is read of a stream that has nothing
    have hbody : m.body = [] := List.length_eq_zero_iff.1 (by omega)
    rw [hbody]
  · exact absurd m.length_le (not_le.2 hlarge)
  · rw [Int.toNat_natCast, List.take_length]

theorem delivery_eq (hnames : names.SpareBody) :
    Delivery.ofFields names m.body r.fields = Delivery.ofFields names m.body m.fields :=
  Delivery.ofFields_congr hnames
    (fun _ hname => firstValue?_of_conveys h.conveys m.isToken m.distinct hname) m.body

end Cgi.Request.Presents

theorem Chunked.Request.Presents.delivery_eq {r : Chunked.Request} (h : r.Presents m)
    (hnames : names.SpareBody) :
    Delivery.ofFields names m.body r.fields = Delivery.ofFields names m.body m.fields :=
  Delivery.ofFields_congr hnames
    (fun _ _ => Eq.symm <| firstValue?_congr (fun _ _ => value_unique m.distinct)
      fun _ => by rw [h.folded_eq]) m.body

end Found

/-! ### What comes of a request -/

/-- The verification of a request. -/
def HttpRequest.outcome (m : HttpRequest) (config : Config) (s : MemoryStore) (clock : DateTime) :
    Verifier.Outcome :=
  verify config (.memory s) ⟨.blocking, m.body, m.fields, clock⟩

section Handle

variable {m : HttpRequest} {g : Guard}

/-- The gateway of parameters settles the verification of the request that it is given. -/
theorem Cgi.handle_of_presents {r : Cgi.Request} (h : r.Presents m)
    (hnames : g.config.names.SpareBody) (app : Application) (s : MemoryStore) (clock : DateTime) :
    handle g app (.memory s) clock r =
      if !g.protects m.path then Guard.bypass app (some m.body) (.memory s)
      else g.settle wording app (some m.body) (m.outcome g.config s clock) := by
  unfold handle
  have hdelivery : (⟨.blocking, m.body, r.fields, clock⟩ : Call).delivery g.config =
      (⟨.blocking, m.body, m.fields, clock⟩ : Call).delivery g.config := h.delivery_eq hnames
  rw [h.path, h.stream_eq, h.readBody_eq]
  dsimp only
  rw [verify_memory_congr hdelivery rfl s]
  rfl

/-- And so does the gateway of chunks. -/
theorem Chunked.handle_of_presents {r : Chunked.Request} (a : Assignment) (h : r.Presents m)
    (hnames : g.config.names.SpareBody) (app : Application) (s : MemoryStore) (clock : DateTime) :
    handle a g app (.memory s) clock r =
      if !g.protects m.path then Guard.bypass app (some m.body) (.memory s)
      else g.settle (wording a) app (some m.body) (m.outcome g.config s clock) := by
  unfold handle
  have hdelivery : (⟨.awaiting, m.body, r.fields, clock⟩ : Call).delivery g.config =
      (⟨.blocking, m.body, m.fields, clock⟩ : Call).delivery g.config := h.delivery_eq hnames
  rw [h.path_eq, h.body_eq, verify_memory_congr hdelivery rfl s]
  rfl

end Handle

/-! ### Agreement -/

/-- Two responses are alike: they have the same status, the same body or the same reason in it, and
the same decisions if the application tells none of its own. -/
structure Response.Alike (app : Application) (response response' : Response) : Prop where
  status_eq : response.status = response'.status
  body_eq_or : response.body = response'.body ∨
    ∃ reason, TellsReason response.body reason ∧ TellsReason response'.body reason
  decisions_eq : (∀ body answer, app body = .ok answer → decisions answer.fields = []) →
    decisions response.fields = decisions response'.fields

/-- Two exchanges agree in all but how their responses are written. -/
structure Exchange.Agrees (app : Application) (e e' : Exchange) : Prop where
  state_eq : e.state = e'.state
  store_eq : e.store = e'.store
  called_eq : e.called = e'.called
  seen_eq : e.seen = e'.seen
  commands_eq : e.commands = e'.commands
  log_eq : e.log = e'.log
  fault_iff : ∀ fault, e.response = .error fault ↔ e'.response = .error fault
  alike : ∀ response response', e.response = .ok response → e'.response = .ok response' →
    response.Alike app response'

section Agreement

variable {app : Application} {e e' : Exchange} {g : Guard} {w w' : Guard.Wording}
  {readable : Option Bytes} {o : Verifier.Outcome}

theorem Exchange.Agrees.refl (app : Application) (e : Exchange) : e.Agrees app e := by
  refine ⟨rfl, rfl, rfl, rfl, rfl, rfl, fun _ => Iff.rfl, fun response response' h h' => ?_⟩
  cases h.symm.trans h'
  exact ⟨rfl, .inl rfl, fun _ => rfl⟩

/-- Denials of one reason are alike. -/
theorem alike_denial (hw : w.Faithful) (hw' : w'.Faithful) (app : Application) (reason : Reason) :
    (w.denial reason).Alike app (w'.denial reason) where
  status_eq := (hw.status_denial reason).trans (hw'.status_denial reason).symm
  body_eq_or := .inr ⟨reason, hw.tellsReason_denial reason, hw'.tellsReason_denial reason⟩
  decisions_eq _ := (hw.decisions_denial reason).trans (hw'.decisions_denial reason).symm

/-- A response of the application is alike under both marks of a decision. -/
theorem alike_mark (hw : w.Faithful) (hw' : w'.Faithful) {response : Response}
    (happ : app readable = .ok response) (decision : Decision) :
    Response.Alike app { response with fields := w.mark decision response.fields }
      { response with fields := w'.mark decision response.fields } where
  status_eq := rfl
  body_eq_or := .inl rfl
  decisions_eq hnone := by
    have hfields := hnone readable response happ
    exact (hw.decisions_mark decision _ hfields).trans (hw'.decisions_mark decision _ hfields).symm

theorem agrees_pass (hw : w.Faithful) (hw' : w'.Faithful) (decision : Decision)
    (verdict : Verdict) :
    (Guard.pass w app readable decision verdict o).Agrees app
      (Guard.pass w' app readable decision verdict o) := by
  refine ⟨rfl, rfl, rfl, rfl, rfl, rfl, fun fault => ?_, fun response response' h h' => ?_⟩
  · unfold Guard.pass
    cases app readable with
    | error text => exact Iff.rfl
    | ok response => exact iff_of_false nofun nofun
  · unfold Guard.pass at h h'
    cases happ : app readable with
    | error text =>
      rw [happ] at h
      cases h
    | ok answer =>
      rw [happ] at h h'
      cases h
      cases h'
      exact alike_mark hw hw' happ decision

/-- Guards that write faithfully settle an outcome alike. -/
theorem agrees_settle (hw : w.Faithful) (hw' : w'.Faithful) :
    (g.settle w app readable o).Agrees app (g.settle w' app readable o) := by
  cases hresult : o.result with
  | error fault =>
    rw [Guard.settle_of_fault hresult, Guard.settle_of_fault hresult]
    exact .refl app _
  | ok verdict =>
    by_cases hpass : g.requireVerified = true → verdict = .verified
    · rw [Guard.settle_of_pass hresult hpass, Guard.settle_of_pass hresult hpass]
      exact agrees_pass hw hw' _ verdict
    · rw [Classical.not_imp] at hpass
      cases verdict with
      | verified => exact absurd rfl hpass.2
      | rejected reason detail =>
        rw [Guard.settle_of_denied hpass.1 hresult, Guard.settle_of_denied hpass.1 hresult]
        refine ⟨rfl, rfl, rfl, rfl, rfl, rfl, fun fault => iff_of_false nofun nofun, ?_⟩
        intro response response' h h'
        cases h
        cases h'
        exact alike_denial hw hw' app reason

/-- A request comes to the same through either gateway, however the framework of the one for chunks
puts fields into responses, if no header of a delivery is looked for under a name that describes the
body. -/
theorem gateways_agree {m : HttpRequest} {r : Cgi.Request} {c : Chunked.Request}
    (hnames : g.config.names.SpareBody) (hr : r.Presents m) (hc : c.Presents m)
    (a : Chunked.Assignment) (app : Application) (s : MemoryStore) (clock : DateTime) :
    (Cgi.handle g app (.memory s) clock r).Agrees app
      (Chunked.handle a g app (.memory s) clock c) := by
  rw [Cgi.handle_of_presents hr hnames, Chunked.handle_of_presents a hc hnames]
  split_ifs
  · exact .refl app _
  · exact agrees_settle Cgi.faithful_wording (Chunked.faithful_wording a)

end Agreement

/-! ### A sample -/

/-- The sample delivery, with the type of its body. -/
def sampleRequest : HttpRequest where
  path := "/hook"
  fields := [("Content-Type", "text/plain"), ("X-Swish-Timestamp", "300"),
    ("X-Swish-Nonce", "n"), ("X-Swish-Signature", sampleSignature)]
  body := [120, 10, 121]
  isToken := by
    have hall : ∀ name ∈ ["Content-Type", "X-Swish-Timestamp", "X-Swish-Nonce",
        "X-Swish-Signature"], name.toList.all isTokenChar = true := by
      decide
    simpa [IsToken] using hall
  distinct := by decide +kernel
  length_le := by decide

/-- The sample delivery reaches the application from the first gateway, hence in two chunks from the
other one too. -/
theorem sampleRequest_agrees :
    sampleConfig.names.SpareBody ∧ sampleRequest.toCgi.Presents sampleRequest ∧
      (sampleRequest.toChunked [[120, 10], [121]]).Presents sampleRequest ∧
      (Chunked.handle .inPlace (Cgi.sampleGuard true) Cgi.sampleApplication (.memory .empty)
        (sampleMinute 5) (sampleRequest.toChunked [[120, 10], [121]])).called = true := by
  have hnames : sampleConfig.names.SpareBody := by
    intro role
    cases role <;> decide +kernel
  have hchunked : (sampleRequest.toChunked [[120, 10], [121]]).Presents sampleRequest :=
    sampleRequest.presents_toChunked rfl
  have hcgi := sampleRequest.presents_toCgi
  have hcalled : (Cgi.handle (Cgi.sampleGuard true) Cgi.sampleApplication (.memory .empty)
      (sampleMinute 5) sampleRequest.toCgi).called = true := by
    decide +kernel
  have hagree := gateways_agree (g := Cgi.sampleGuard true) hnames hcgi hchunked .inPlace
    Cgi.sampleApplication .empty (sampleMinute 5)
  exact ⟨hnames, hcgi, hchunked, hagree.called_eq.symm.trans hcalled⟩

end WebhookAuth
