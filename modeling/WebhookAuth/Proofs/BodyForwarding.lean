import WebhookAuth.Gateway.Cgi
import WebhookAuth.Proofs.History

/-!
# The forwarded body

The guard verifies as many bytes of the stream as the request announces (`Request.readBody_eq_ok`).
The application reads the same bytes if that is more than none, and the whole stream otherwise.
Hence it reads what was verified just if bytes are announced or there are none
(`seen_eq_body_iff`): without a length a signature for no bytes lets any bytes through.
-/

namespace WebhookAuth

namespace Guard

variable {g : Guard} {w : Wording} {app : Application} {readable : Option Bytes}
  {o : Verifier.Outcome}

/-- The application is called unless there is no verdict or the guard answers for it. -/
theorem called_settle :
    (g.settle w app readable o).called = true ↔
      ∃ verdict, o.result = .ok verdict ∧ (g.requireVerified = true → verdict = .verified) := by
  unfold settle
  cases o.result with
  | error fault => simp
  | ok verdict =>
    cases verdict with
    | verified => simp [pass]
    | rejected reason detail =>
      cases g.requireVerified <;> simp [pass]

/-- An application that is called reads the body that is left for it. -/
theorem seen_settle (h : (g.settle w app readable o).called = true) :
    (g.settle w app readable o).seen = readable := by
  obtain ⟨verdict, hresult, hpass⟩ := called_settle.1 h
  unfold settle
  rw [hresult]
  cases verdict with
  | verified => rfl
  | rejected reason detail =>
    dsimp only
    split
    · rename_i hrequired
      cases hpass hrequired
    · rfl

end Guard

namespace Cgi

variable {g : Guard} {app : Application} {store : NonceStore} {clock : DateTime} {r : Request}
  {body : Bytes} {readable : Option Bytes}

/-- How many bytes a request announces; a missing or malformed length and one below zero announce
none. -/
def Request.announced (r : Request) : ℕ := (r.length?.getD 0).toNat

/-- The announced bytes are verified; the application reads the same, or the whole stream if none
are announced. -/
theorem Request.readBody_eq_ok (h : r.readBody = .ok (body, readable)) :
    body = (r.stream.getD []).take r.announced ∧
      readable.getD [] = if r.announced = 0 then r.stream.getD [] else body := by
  unfold readBody at h
  unfold announced
  cases hlength : r.length? with
  | none =>
    rw [hlength] at h
    cases h
    simp
  | some length =>
    rw [hlength] at h
    cases hstream : r.stream with
    | none =>
      rw [hstream] at h
      cases h
      simp
    | some stream =>
      rw [hstream] at h
      dsimp only at h
      split_ifs at h with hnone hlarge
      · cases h
        have hzero : length.toNat = 0 := by omega
        simp [hzero]
      · cases h
        have hpos : length.toNat ≠ 0 := by omega
        simp [hpos]

/-- The verified bytes are those that the application reads just if bytes are announced or there are
none. -/
theorem Request.readable_eq_body_iff (h : r.readBody = .ok (body, readable)) :
    readable.getD [] = body ↔ 0 < r.announced ∨ r.stream.getD [] = [] := by
  obtain ⟨hbody, hreadable⟩ := readBody_eq_ok h
  rw [hreadable]
  by_cases hzero : r.announced = 0
  · rw [if_pos hzero, hbody, hzero, List.take_zero]
    simp
  · rw [if_neg hzero]
    simp [Nat.pos_of_ne_zero hzero]

/-- An application that is called for a request to a guarded path reads the body that was verified
just if bytes are announced or there are none. -/
theorem seen_eq_body_iff (hprotects : g.protects r.path = true)
    (hcalled : (handle g app store clock r).called = true) :
    ∃ body readable,
      handle g app store clock r = g.settle wording app readable
        (Verifier.verify g.config store ⟨.blocking, body, r.fields, clock⟩) ∧
      body = (r.stream.getD []).take r.announced ∧
      (handle g app store clock r).seen = readable ∧
      (readable.getD [] = body ↔ 0 < r.announced ∨ r.stream.getD [] = []) := by
  unfold handle at hcalled ⊢
  rw [hprotects, if_neg (by decide)] at hcalled ⊢
  cases hread : r.readBody with
  | error fault =>
    rw [hread] at hcalled
    cases hcalled
  | ok found =>
    obtain ⟨body, readable⟩ := found
    rw [hread] at hcalled
    exact ⟨body, readable, rfl, (Request.readBody_eq_ok hread).1, Guard.seen_settle hcalled,
      Request.readable_eq_body_iff hread⟩

/-- An application that answers everything with an empty success. -/
def sampleApplication : Application := fun _ => .ok ⟨.ok, [], []⟩

/-- A guard before all paths. -/
def sampleGuard (requireVerified : Bool) : Guard := ⟨Verifier.sampleConfig, none, requireVerified⟩

/-- A request without headers of a delivery, with two of three bytes announced. -/
def shortRequest : Request := ⟨[("CONTENT_LENGTH", "2")], some [120, 121, 122]⟩

theorem seen_eq_body_iff_shortRequest :
    ∃ body readable,
      handle (sampleGuard false) sampleApplication (.memory .empty) (Verifier.sampleMinute 5)
          shortRequest =
        (sampleGuard false).settle wording sampleApplication readable
          (Verifier.verify Verifier.sampleConfig (.memory .empty)
            ⟨.blocking, body, shortRequest.fields, Verifier.sampleMinute 5⟩) ∧
      body = (shortRequest.stream.getD []).take shortRequest.announced ∧
      (handle (sampleGuard false) sampleApplication (.memory .empty) (Verifier.sampleMinute 5)
        shortRequest).seen = readable ∧
      (readable.getD [] = body ↔
        0 < shortRequest.announced ∨ shortRequest.stream.getD [] = []) :=
  seen_eq_body_iff (by decide) (by decide +kernel)

/-- A request without a length, with a signature for no bytes and two bytes in the stream. -/
def unannouncedRequest : Request where
  parameters := [("HTTP_X_SWISH_TIMESTAMP", "300"), ("HTTP_X_SWISH_NONCE", "n"),
    ("HTTP_X_SWISH_SIGNATURE", "vtp9mVDVYX2FocFszUvFzIJqXmz0WrQKBKBWUBGyqX8=")]
  stream := some [120, 121]

/-- Bytes that no signature covers pass a guard that lets only verified requests pass. -/
theorem unannouncedRequest_allowed :
    (handle (sampleGuard true) sampleApplication (.memory .empty) (Verifier.sampleMinute 5)
        unannouncedRequest).state = some ⟨true, some .verified⟩ ∧
      (handle (sampleGuard true) sampleApplication (.memory .empty) (Verifier.sampleMinute 5)
        unannouncedRequest).seen = some [120, 121] ∧
      unannouncedRequest.readBody = .ok ([], some [120, 121]) := by
  decide +kernel

end Cgi

end WebhookAuth
