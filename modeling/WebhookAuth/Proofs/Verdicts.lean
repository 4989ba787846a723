import WebhookAuth.Proofs.Checks
import WebhookAuth.Proofs.Faults

/-!
# Calls with a verdict

Where the skew can be turned around, the nonce would have an expiry and the store responds, a call
that meets no text which cannot be encoded has a verdict unless its timestamp is a number with too
many digits; then it is refused for them, and the store is not reached
(`Verifier.hasVerdict_iff_not_presentsOverlong`).
-/

namespace WebhookAuth

theorem rawHeader?_map_ofString (names : HeaderNames) (fields : Fields) (role : Role) :
    rawHeader? names (fields.map fun field => (.ofString field.1, .ofString field.2)) role =
      (header? names fields role).map .ofString := by
  have h := Delivery.ofRawFields_raw names [] fields
  rw [Delivery.ofRawFields_eq, Delivery.ofFields_eq, Delivery.raw] at h
  injection h with _ htimestamp hsignature hnonce
  cases role with
  | timestamp => exact htimestamp
  | signature => exact hsignature
  | nonce => exact hnonce

namespace Verifier

variable {config : Config} {call : RawCall} {s : NonceStore} {caller : Caller} {expires : DateTime}
  {count : ℕ}

/-- All headers that a delivery must have are among the fields, and the timestamp is a number with
this many digits, which are too many. -/
def RawCall.PresentsOverlong (config : Config) (call : RawCall) (count : ℕ) : Prop :=
  (∃ timestamp, rawHeader? config.names call.fields .timestamp = some (.ofString timestamp) ∧
      Timestamp.IsOverlong timestamp count) ∧
    (rawHeader? config.names call.fields .signature).isSome ∧
    (config.policy = .required → (rawHeader? config.names call.fields .nonce).isSome)

theorem Call.presentsOverlong_raw_iff (call : Call) :
    call.raw.PresentsOverlong config count ↔
      Verifier.PresentsOverlong config call.fields count := by
  unfold RawCall.PresentsOverlong Verifier.PresentsOverlong Call.raw
  dsimp only
  rw [rawHeader?_map_ofString, rawHeader?_map_ofString, rawHeader?_map_ofString]
  simp [RawText.ofString_inj]

theorem RawCall.presentsOverlong_iff (body : Bytes) :
    call.PresentsOverlong config count ↔
      ∃ timestamp signature, HasHeaders config (call.delivery config body) timestamp signature ∧
        Timestamp.readRaw timestamp = .error (.tooManyDigits ⟨count⟩) := by
  rw [RawCall.delivery_eq]
  constructor
  · rintro ⟨⟨timestamp, htimestamp, hoverlong⟩, hsignature, hnonce⟩
    obtain ⟨signature, hsignature⟩ := Option.isSome_iff_exists.1 hsignature
    exact ⟨_, signature, ⟨htimestamp, hsignature, hnonce⟩,
      Timestamp.readRaw_eq_tooManyDigits_iff.2 ⟨timestamp, rfl, hoverlong⟩⟩
  · rintro ⟨timestamp, signature, ⟨htimestamp, hsignature, hnonce⟩, hread⟩
    obtain ⟨text, rfl, hoverlong⟩ := Timestamp.readRaw_eq_tooManyDigits_iff.1 hread
    exact ⟨⟨text, htimestamp, hoverlong⟩, Option.isSome_iff_exists.2 ⟨signature, hsignature⟩,
      hnonce⟩

/-- A call whose timestamp has too many digits is refused for them, and does not reach the store. -/
theorem RawCall.PresentsOverlong.receiveOver_eq (h : call.PresentsOverlong config count)
    {bytes : Bytes} (hbody : call.body.encode = .ok bytes) {Store : Type} (reserve : Reserver Store)
    (store : Store) :
    receiveOver reserve config store call = ⟨.error (.tooManyDigits ⟨count⟩), store, [], []⟩ := by
  obtain ⟨timestamp, signature, hheaders, hread⟩ := (RawCall.presentsOverlong_iff bytes).1 h
  rw [Verifier.receiveOver_eq, RawCall.plan_eq hbody, planRaw, hheaders.planHeaders_eq, hread]
  rfl

/-- Where the skew can be turned around, the nonce would have an expiry and the store responds,
every call that meets no text which cannot be encoded has a verdict unless its timestamp has too
many digits; then it is refused for them, and the store is not reached. -/
theorem hasVerdict_iff_not_presentsOverlong (s : NonceStore) (caller : Caller)
    (body : Payload RawText) (fields : List (RawText × RawText)) (clock : DateTime)
    (given : Option DateTime) (hclock : given = none → clock.isAware = true)
    (hskew : config.skew.micros ≤ Config.maxSkewMicros)
    (hexpiry : expiry config (referenceTime clock given) = .ok expires) (hs : s.Responds caller)
    (hencodable : ∀ e,
      ¬MeetsUnencodable config ⟨caller, body, fields, referenceTime clock given⟩ e) :
    let call : RawCall := ⟨caller, body, fields, referenceTime clock given⟩
    ((receive config s call).HasVerdict ↔ ¬∃ count, call.PresentsOverlong config count) ∧
      ∀ count, call.PresentsOverlong config count →
        receive config s call = ⟨.error (.tooManyDigits ⟨count⟩), s, [], []⟩ := by
  intro call
  have hnow : call.now.isAware = true := isAware_referenceTime hclock
  obtain ⟨bytes, hbody, hverdict⟩ := @result_receiveOver config NonceStore
    NonceStore.reserve s expires call hskew hnow hencodable
  have hdigits (count : ℕ) (hpresents : call.PresentsOverlong config count) :
      receive config s call = ⟨.error (.tooManyDigits ⟨count⟩), s, [], []⟩ :=
    hpresents.receiveOver_eq hbody NonceStore.reserve s
  refine ⟨⟨?_, fun hshort => ?_⟩, hdigits⟩
  · rintro ⟨verdict, hverdict⟩ ⟨count, hpresents⟩
    rw [hdigits count hpresents] at hverdict
    cases hverdict
  · refine ⟨_, hverdict ?_ hexpiry ?_⟩
    · rintro timestamp signature hheaders ⟨count⟩ hread
      exact hshort ⟨count, (RawCall.presentsOverlong_iff bytes).2 ⟨_, _, hheaders, hread⟩⟩
    · intro nonce hnonce
      have hheader := (signedNonce?_eq_some_iff.1 hnonce).2
      rw [RawCall.delivery_eq] at hheader
      have hblank := isBlank_of_rawHeader? hheader
      rw [RawText.isBlank_ofString] at hblank
      obtain ⟨-, -, -, haware⟩ := exists_lifetime_of_expiry hexpiry
      exact hs.answer_mem hblank (haware.trans hnow) hnow

/-- The fields of the sample delivery, but with so many sevens for a timestamp. -/
def overlongFields (count : ℕ) : Fields :=
  [("X-Swish-Timestamp", String.ofList (List.replicate count '7')), ("X-Swish-Nonce", "n"),
    ("X-Swish-Signature", sampleSignature)]

theorem isOverlong_sevens (h : Numeral.maxDigits < count) :
    Timestamp.IsOverlong (String.ofList (List.replicate count '7')) count := by
  refine ⟨⟨[], List.replicate count '7', ?_, List.mem_cons_self, ?_, List.length_replicate⟩, h⟩
  · have hseven : Text.isBlank '7' = false := by decide
    rw [String.toList_ofList, Text.strip, Text.trimBy]
    simp [hseven]
  · intro c hc
    rw [List.eq_of_mem_replicate hc]
    decide

theorem presentsOverlong_overlongFields (h : Numeral.maxDigits < count) :
    Verifier.PresentsOverlong sampleConfig (overlongFields count) count := by
  have hnames : Text.lower "X-Swish-Timestamp" = "x-swish-timestamp" ∧
      Text.lower "X-Swish-Nonce" = "x-swish-nonce" ∧
      Text.lower "X-Swish-Signature" = "x-swish-signature" := by
    decide +kernel
  have horder : sampleConfig.names.lookupOrder .timestamp = ["x-swish-timestamp", "x-timestamp"] ∧
      sampleConfig.names.lookupOrder .nonce = ["x-swish-nonce", "x-nonce"] ∧
      sampleConfig.names.lookupOrder .signature = ["x-swish-signature", "x-signature"] := by
    decide +kernel
  obtain ⟨htimestamp, hnonce, hsignature⟩ := horder
  -- the value is too long to be computed with: no seven is blank, whatever their number
  have hblank : Text.isBlankText (String.ofList (List.replicate count '7')) = false := by
    unfold Text.isBlankText
    rw [String.toList_ofList, List.all_replicate, if_neg (by omega)]
    decide
  have hothers : Text.isBlankText "n" = false ∧ Text.isBlankText sampleSignature = false := by
    decide +kernel
  refine ⟨⟨_, ?_, isOverlong_sevens h⟩, ?_, fun _ => ?_⟩
  · rw [header?, headerBy?, htimestamp]
    simp [firstValue?, overlongFields, hnames, hblank]
  · rw [header?, headerBy?, hsignature]
    simp [firstValue?, overlongFields, hnames, hothers]
  · rw [header?, headerBy?, hnonce]
    simp [firstValue?, overlongFields, hnames, hothers]

theorem receive_overlongFields :
    (Call.raw ⟨.awaiting, [], overlongFields 4301, sampleMinute 5⟩).PresentsOverlong sampleConfig
        4301 ∧
      receive sampleConfig (.memory .empty)
          (Call.raw ⟨.awaiting, [], overlongFields 4301, sampleMinute 5⟩) =
        ⟨.error (.tooManyDigits ⟨4301⟩), .memory .empty, [], []⟩ := by
  have hpresents : (Call.raw ⟨.awaiting, [], overlongFields 4301, sampleMinute 5⟩).PresentsOverlong
      sampleConfig 4301 :=
    (Call.presentsOverlong_raw_iff _).2 (presentsOverlong_overlongFields (by decide))
  have hresponds : (NonceStore.memory .empty).Responds .awaiting := MemoryStore.allAware_empty
  refine ⟨hpresents, ?_⟩
  exact (hasVerdict_iff_not_presentsOverlong _ .awaiting (.raw []) _ (sampleMinute 0)
    (some (sampleMinute 5)) (by simp) (by decide) (expiry_sampleMinute 5 (by decide)) hresponds
    (Call.not_meetsUnencodable_raw sampleConfig
      ⟨.awaiting, [], overlongFields 4301, sampleMinute 5⟩)).2 4301 hpresents

/-- Whether the call has a verdict over a local store is settled by the digits of its timestamp. -/
def RawCall.IsSettledByDigits (config : Config) (s : MemoryStore) (call : RawCall) : Prop :=
  (receive config (.memory s) call).HasVerdict ↔ ¬∃ count, call.PresentsOverlong config count

theorem RawCall.not_isSettledByDigits {bytes : Bytes} {fault : Fault} {s : MemoryStore}
    (hbody : call.body.encode = .ok bytes)
    (hresult : (receive config (.memory s) call).result = .error fault)
    (hfault : ∀ refusal, fault ≠ .tooManyDigits refusal) : ¬call.IsSettledByDigits config s := by
  intro hsettled
  have hshort : ¬∃ count, call.PresentsOverlong config count := by
    rintro ⟨count, hpresents⟩
    rw [receive, hpresents.receiveOver_eq hbody] at hresult
    exact hfault _ (Except.error.inj hresult).symm
  obtain ⟨verdict, hverdict⟩ := hsettled.2 hshort
  cases hverdict.symm.trans hresult

/-- Without a verdict is also a call that finds an expiry it cannot compare with its time, and one
whose nonce is a surrogate. -/
theorem samples_not_isSettledByDigits :
    sampleConfig.skew.micros ≤ Config.maxSkewMicros ∧
      expiry sampleConfig (sampleMinute 5) = .ok (sampleMinute 15) ∧
      ¬(sampleCall "n" [120, 10, 121] 5).raw.IsSettledByDigits sampleConfig sampleStray ∧
      ¬RawCall.IsSettledByDigits sampleConfig .empty ⟨.blocking, .raw [120, 10, 121],
        aliasedFields [.surrogate lowestSurrogate], sampleMinute 5⟩ := by
  have hask : (sampleCall "n" [120, 10, 121] 5).Asks sampleConfig "n" (sampleMinute 15) :=
    sampleCall_asks_n (by decide)
  have hstray : (receive sampleConfig (.memory sampleStray)
      (sampleCall "n" [120, 10, 121] 5).raw).result = .error (.store (.time .mixedComparison)) := by
    rw [receive_raw, hask.verify_eq]
    rfl
  have hsurrogate : (receive sampleConfig (.memory .empty) ⟨.blocking, .raw [120, 10, 121],
      aliasedFields [.surrogate lowestSurrogate], sampleMinute 5⟩).result =
      .error (.unencodable ⟨0, lowestSurrogate, 0⟩) := by
    decide +kernel
  refine ⟨by decide, expiry_sampleMinute 5 (by decide), ?_, ?_⟩
  · exact RawCall.not_isSettledByDigits rfl hstray (by simp)
  · exact RawCall.not_isSettledByDigits rfl hsurrogate (by simp)

end Verifier

end WebhookAuth
