import WebhookAuth.Proofs.Mediation

/-!
# The decision header

A mark adds the decision of the guard to the fields of the application and takes away those in whose
place the gateway puts it (`GatewayRequest.decisions_mark_perm`). These are the fields named in
lowercase behind the gateway for chunks, and none behind the one for parameters. So a response that
is passed on tells the decision of the guard and no other just if the application tells none in
another field (`Visit.decides_once_iff`).
-/

namespace WebhookAuth

open Verifier

namespace GatewayRequest

/-- Does the gateway put its mark in the place of this field? -/
def replaces : GatewayRequest → String × String → Bool
  | cgi _, _ => false
  | chunked _ _, field => field.1 == Chunked.fieldName

/-- A mark tells the decision of the guard, and what the application tells in fields that stay. -/
theorem decisions_mark_perm (r : GatewayRequest) (decision : Decision) (fields : Fields) :
    (decisions (r.wording.mark decision fields)).Perm
      (decision.name :: decisions (fields.filter (!r.replaces ·))) := by
  cases r with
  | cgi r =>
    have hstay : fields.filter (!(cgi r).replaces ·) = fields :=
      List.filter_eq_self.2 fun _ _ => rfl
    have hmark :
        (cgi r).wording.mark decision fields = fields ++ [(decisionHeader, decision.name)] := rfl
    rw [hstay, hmark, decisions_append, decisions_cons, if_pos rfl, decisions_nil]
    exact List.perm_append_singleton _ _
  | chunked a r =>
    obtain ⟨front, behind, hstay, hmark⟩ := Chunked.exists_mark_eq a decision fields
    have hstay : fields.filter (!(chunked a r).replaces ·) = front ++ behind := hstay
    have hmark : (chunked a r).wording.mark decision fields =
        front ++ (Chunked.fieldName, decision.name) :: behind := hmark
    rw [hstay, hmark, decisions_append, decisions_cons, if_pos Chunked.lower_fieldName,
      decisions_append]
    exact List.perm_middle

/-- The decision of the guard is the only one just if the application tells none in a field that
stays. -/
theorem decisions_mark_eq_iff (r : GatewayRequest) (decision : Decision) (fields : Fields) :
    decisions (r.wording.mark decision fields) = [decision.name] ↔
      ∀ field ∈ fields, isDecision field = true → r.replaces field = true := by
  have hperm := r.decisions_mark_perm decision fields
  have hnone : decisions (fields.filter (!r.replaces ·)) = [] ↔
      ∀ field ∈ fields, isDecision field = true → r.replaces field = true := by
    unfold decisions
    rw [List.map_eq_nil_iff, List.filter_filter, List.filter_eq_nil_iff]
    simp
  rw [← hnone]
  constructor
  · intro honce
    rw [honce] at hperm
    exact (List.cons.inj (List.perm_singleton.1 hperm.symm)).2
  · intro hempty
    rw [hempty] at hperm
    exact List.perm_singleton.1 hperm

end GatewayRequest

namespace Visit

variable {config : Config} {store : NonceStore} {v : Visit} {verdict : Verdict}

/-- A verdict on a request to a guarded path settles it, with the body left for the application. -/
theorem exists_settle_of_result (hguarded : v.isGuarded = true)
    (hresult : v.result config store = .ok verdict) :
    ∃ readable o, o.result = .ok verdict ∧
      v.exchange config store =
        (v.guard config).settle v.request.wording v.app readable o := by
  unfold result call? at hresult
  rw [exchange_eq, hguarded, Bool.not_true, if_neg Bool.false_ne_true]
  cases hreading : v.request.reading v.clock with
  | error fault =>
    rw [hreading] at hresult
    cases hresult
  | ok found =>
    obtain ⟨call, readable⟩ := found
    rw [hreading] at hresult
    exact ⟨readable, verify config store call, mapError_eq_ok_iff.1 hresult, rfl⟩

/-- A response to a request to a guarded path tells the decision of the guard. A denial tells
nothing else. A response that is passed on keeps all other fields of the application in their order,
and tells the decision of the guard and no other just if the gateway replaces every field in which
the application tells one. -/
theorem decides_once_iff (hguarded : v.isGuarded = true)
    (hresult : v.result config store = .ok verdict) :
    (v.requireVerified = true → verdict ≠ .verified →
        ∃ denial, (v.exchange config store).response = .ok denial ∧
          denial.status = .unauthorized ∧ decisions denial.fields = [Decision.deny.name]) ∧
      ((v.requireVerified = true → verdict = .verified) →
        ∀ response, v.app (v.exchange config store).seen = .ok response →
        ∃ marked, (v.exchange config store).response = .ok marked ∧
          marked.status = response.status ∧ marked.body = response.body ∧
          otherFields marked.fields = otherFields response.fields ∧
          (decisions marked.fields).Perm ((Decision.of verdict).name ::
            decisions (response.fields.filter (!v.request.replaces ·))) ∧
          (decisions marked.fields = [(Decision.of verdict).name] ↔
            ∀ field ∈ response.fields, isDecision field = true →
              v.request.replaces field = true)) := by
  have hfaithful := v.request.faithful_wording
  obtain ⟨readable, o, ho, hexchange⟩ := exists_settle_of_result hguarded hresult
  rw [hexchange]
  constructor
  · intro hrequired hverdict
    cases verdict with
    | verified => exact absurd rfl hverdict
    | rejected reason detail =>
      rw [Guard.settle_of_denied hrequired ho]
      exact ⟨_, rfl, hfaithful.status_denial reason, hfaithful.decisions_denial reason⟩
  · intro hpass response happ
    rw [Guard.settle_of_pass ho hpass] at happ ⊢
    have happ : v.app readable = .ok response := happ
    refine ⟨{ response with
      fields := v.request.wording.mark (Decision.of verdict) response.fields }, ?_, rfl, rfl,
      hfaithful.otherFields_mark _ _, v.request.decisions_mark_perm _ _,
      v.request.decisions_mark_eq_iff _ _⟩
    unfold Guard.pass
    rw [happ]
    rfl

/-- An application that tells decisions of its own, in lowercase and among another field. -/
def sampleDecider : Application := fun _ =>
  .ok ⟨.ok, [("x-webhook-decision", "allow"), ("vary", "accept"),
    ("x-webhook-decision", "deny")], []⟩

/-- A request without headers in chunks, to a guard that lets it pass. -/
def sampleObserved : Visit :=
  ⟨none, false, sampleDecider, sampleMinute 5, .chunked .inPlace ⟨"/", [], []⟩⟩

theorem sampleObserved_decides_once :
    ∃ marked, (sampleObserved.exchange sampleConfig (.memory .empty)).response = .ok marked ∧
      decisions marked.fields = ["observe"] ∧ otherFields marked.fields = [("vary", "accept")] := by
  have hresult : sampleObserved.result sampleConfig (.memory .empty) =
      .ok (.rejected .missingHeader (some "X-Swish-Timestamp")) := by
    decide +kernel
  obtain ⟨-, hpassed⟩ := decides_once_iff (v := sampleObserved) rfl hresult
  obtain ⟨marked, hmarked, -, -, hothers, -, honce⟩ :=
    hpassed (fun hrequired => by cases hrequired) _ rfl
  refine ⟨marked, hmarked, honce.2 ?_, hothers.trans ?_⟩
  · decide +kernel
  · decide +kernel

/-- The same request as parameters, before an application that tells a decision. -/
def sampleContradicted : Visit :=
  ⟨none, false, fun _ => .ok ⟨.ok, [(decisionHeader, "allow")], []⟩, sampleMinute 5,
    .cgi ⟨[], none⟩⟩

/-- The application's decision stands beside that of the guard, and ahead of it. -/
theorem sampleContradicted_decides_twice :
    sampleContradicted.isGuarded = true ∧
      sampleContradicted.result sampleConfig (.memory .empty) =
        .ok (.rejected .missingHeader (some "X-Swish-Timestamp")) ∧
      (sampleContradicted.exchange sampleConfig (.memory .empty)).response =
        .ok ⟨.ok, [("X-Webhook-Decision", "allow"), ("X-Webhook-Decision", "observe")], []⟩ ∧
      decisions [("X-Webhook-Decision", "allow"), ("X-Webhook-Decision", "observe")] =
        ["allow", "observe"] := by
  decide +kernel

end Visit

end WebhookAuth
