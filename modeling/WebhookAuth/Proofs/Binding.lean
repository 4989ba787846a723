import WebhookAuth.Proofs.CanonicalMessage
import WebhookAuth.Proofs.History

/-!
# Calls with one tag

Over a span of time shorter than the lifetime of a nonce, calls with one tag that are verified carry
the same signed bytes, and every one of them has another nonce (`Grants.nonce_ne`). That takes a
line feed in a timestamp or a nonce, by which the bytes are divided in two ways
(`eq_or_divided_of_tag_eq`).
-/

namespace WebhookAuth.Verifier

variable {config : Config} {calls : List Call} {a b : Call} {i j : ℕ} {r r' : NonceRecord}
  {lifetime : Duration}

/-- The signed bytes of no two calls have one tag. -/
def CollisionFree (config : Config) (calls : List Call) : Prop :=
  ∀ a ∈ calls, ∀ b ∈ calls,
    ∀ m ∈ message? config (a.delivery config), ∀ m' ∈ message? config (b.delivery config),
      Signature.tag config.secret m = Signature.tag config.secret m' → m = m'

/-- All reference times lie less than a span of time apart. -/
def Within (span : Duration) (calls : List Call) : Prop :=
  ∀ a ∈ calls, ∀ b ∈ calls, b.now.instant < a.now.instant + span.micros

/-- No nonce is granted twice within its lifetime. -/
theorem Grants.nonce_ne (hlifetime : config.nonceLifetime = .ok lifetime)
    (hwithin : Within lifetime calls) (h : Grants config calls i r) (h' : Grants config calls j r')
    (hij : i < j) : r'.nonce ≠ r.nonce := by
  intro hnonce
  obtain ⟨k, between, -, -, hk, hover⟩ := h.exists_expired h' hij hnonce
  obtain ⟨call, hcall, hask, -⟩ := h
  obtain ⟨lifetime', hlifetime', hinstant, -⟩ := exists_lifetime_of_expiry hask.expiry_eq
  cases hlifetime.symm.trans hlifetime'
  have hclose := hwithin call (List.mem_of_getElem? hcall) between (List.mem_of_getElem? hk)
  omega

/-- A call that asks for a nonce gives the tag of its signed bytes. -/
theorem Call.Asks.tag?_eq {call : Call} {nonce : String} {expires : DateTime}
    (h : call.Asks config nonce expires) :
    ∃ timestamp, (call.delivery config).timestamp = some timestamp ∧
      (call.delivery config).nonce = some nonce ∧
      message? config (call.delivery config) =
        some (Signature.canonicalMessage timestamp (some nonce) call.body) ∧
      (call.delivery config).tag? = some (Signature.tag config.secret
        (Signature.canonicalMessage timestamp (some nonce) call.body)) := by
  obtain ⟨⟨timestamp, signature, declared, hauth⟩, hnonce, -⟩ := of_plan_eq_reserve h
  have hmessage : signedMessage config timestamp (call.delivery config) =
      Signature.canonicalMessage timestamp (some nonce) call.body := by
    rw [signedMessage, hnonce]
    rfl
  have hdecode := Signature.isValid_eq_ok_true_iff.1 hauth.valid
  have hheader : (call.delivery config).nonce = some nonce := by
    unfold nonceOf at hnonce
    split at hnonce
    · cases hnonce
    · exact hnonce
  refine ⟨timestamp, hauth.timestamp_eq, hheader, ?_, ?_⟩
  · rw [message?, hauth.timestamp_eq, Option.map_some, hmessage]
  · rw [Delivery.tag?, hauth.signature_eq, Option.bind_some, hdecode, ← hmessage]
    rfl

/-- Of all calls with one tag that are verified within the lifetime of a nonce, any two carry the
same signed bytes, divided in two ways at line feeds. -/
theorem eq_or_divided_of_tag_eq (hpolicy : config.policy = .required)
    (hlifetime : config.nonceLifetime = .ok lifetime) (hwithin : Within lifetime calls)
    (hcollision : CollisionFree config calls) (hi : calls[i]? = some a) (hj : calls[j]? = some b)
    (htag : (a.delivery config).tag? = (b.delivery config).tag?)
    (ha : resultAt config calls i = some (.ok .verified))
    (hb : resultAt config calls j = some (.ok .verified)) :
    i = j ∨ ∃ timestamp timestamp' nonce nonce',
      (a.delivery config).timestamp = some timestamp ∧ (a.delivery config).nonce = some nonce ∧
      (b.delivery config).timestamp = some timestamp' ∧ (b.delivery config).nonce = some nonce' ∧
      Signature.canonicalMessage timestamp (some nonce) a.body =
        Signature.canonicalMessage timestamp' (some nonce') b.body ∧
      nonce ≠ nonce' ∧ ∃ text ∈ [timestamp, timestamp', nonce, nonce'], '\n' ∈ text.toList := by
  obtain ⟨r, hgrant⟩ := (resultAt_eq_verified_iff hpolicy).1 ha
  obtain ⟨r', hgrant'⟩ := (resultAt_eq_verified_iff hpolicy).1 hb
  obtain ⟨timestamp, htimestamp, hnonce, hmessage, hfound⟩ := (hgrant.asks hi).tag?_eq
  obtain ⟨timestamp', htimestamp', hnonce', hmessage', hfound'⟩ := (hgrant'.asks hj).tag?_eq
  have hsame := hcollision a (List.mem_of_getElem? hi) b (List.mem_of_getElem? hj) _ hmessage _
    hmessage' (Option.some.inj (hfound.symm.trans (htag.trans hfound')))
  by_cases hij : i = j
  · exact .inl hij
  have hne : r.nonce ≠ r'.nonce := by
    rcases Nat.lt_or_gt_of_ne hij with hlt | hgt
    · exact (hgrant.nonce_ne hlifetime hwithin hgrant' hlt).symm
    · exact hgrant'.nonce_ne hlifetime hwithin hgrant hgt
  refine .inr ⟨timestamp, timestamp', r.nonce, r'.nonce, htimestamp, hnonce, htimestamp', hnonce',
    hsame, hne, ?_⟩
  by_contra hfree
  simp only [List.mem_cons, List.not_mem_nil, or_false, exists_eq_or_imp, exists_eq_left,
    not_or] at hfree
  obtain ⟨ht, ht', hn, hn'⟩ := hfree
  have hparts := Signature.canonicalMessage_inj ht ht'
    (show '\n' ∉ ((some r.nonce).getD "").toList from hn)
    (show '\n' ∉ ((some r'.nonce).getD "").toList from hn') hsame
  exact hne hparts.2.1

/-- The sample message, divided in two ways. -/
def sampleDivision : List Call :=
  [sampleCall "n" [120, 10, 121] 5, sampleCall "n\nx" [121] 6]

theorem resultAt_sampleDivision :
    resultAt sampleConfig sampleDivision 0 = some (.ok .verified) ∧
      resultAt sampleConfig sampleDivision 1 = some (.ok .verified) := by
  have hfirst : (sampleCall "n" [120, 10, 121] 5).Asks sampleConfig "n" (sampleMinute 15) :=
    sampleCall_asks (by decide) (by decide +kernel) (by decide +kernel)
  have hsecond : (sampleCall "n\nx" [121] 6).Asks sampleConfig "n\nx" (sampleMinute 16) :=
    sampleCall_asks (by decide) (by decide +kernel) (by decide +kernel)
  rw [hfirst.resultAt_eq rfl, hsecond.resultAt_eq rfl, if_neg, if_neg]
  · exact ⟨rfl, rfl⟩
  · -- the only earlier grant is that of another nonce
    intro hheld
    obtain ⟨i, hi, r, hgrant, hnonce, -⟩ := exists_grants_of_holds hheld
    cases Nat.lt_one_iff.1 hi
    have hsame := (hgrant.asks rfl).nonceOf_eq.symm.trans hfirst.nonceOf_eq
    rw [Option.some.inj hsame] at hnonce
    exact absurd hnonce (by decide)
  · exact MemoryStore.not_holds_empty

theorem within_sampleDivision : Within (.seconds 600) sampleDivision := by
  unfold Within
  decide +kernel

theorem collisionFree_sampleDivision : CollisionFree sampleConfig sampleDivision := by
  have hmessage : ∀ call ∈ sampleDivision,
      message? sampleConfig (call.delivery sampleConfig) = some sampleMessage := by
    decide +kernel
  intro a ha b hb m hm m' hm' _
  rw [hmessage a ha] at hm
  rw [hmessage b hb] at hm'
  exact (Option.some.inj hm).symm.trans (Option.some.inj hm')

theorem eq_or_divided_of_tag_eq_sampleDivision :
    0 = 1 ∨ ∃ timestamp timestamp' nonce nonce',
      ((sampleCall "n" [120, 10, 121] 5).delivery sampleConfig).timestamp = some timestamp ∧
      ((sampleCall "n" [120, 10, 121] 5).delivery sampleConfig).nonce = some nonce ∧
      ((sampleCall "n\nx" [121] 6).delivery sampleConfig).timestamp = some timestamp' ∧
      ((sampleCall "n\nx" [121] 6).delivery sampleConfig).nonce = some nonce' ∧
      Signature.canonicalMessage timestamp (some nonce) [120, 10, 121] =
        Signature.canonicalMessage timestamp' (some nonce') [121] ∧
      nonce ≠ nonce' ∧ ∃ text ∈ [timestamp, timestamp', nonce, nonce'], '\n' ∈ text.toList :=
  eq_or_divided_of_tag_eq rfl (by decide +kernel) within_sampleDivision
    collisionFree_sampleDivision rfl rfl rfl resultAt_sampleDivision.1 resultAt_sampleDivision.2

/-- More than one of the calls with one tag may be verified. -/
theorem not_eq_of_tag_eq :
    ¬∀ (config : Config) (lifetime : Duration) (calls : List Call) (a b : Call) (i j : ℕ),
      config.policy = .required → config.nonceLifetime = .ok lifetime → Within lifetime calls →
      CollisionFree config calls → calls[i]? = some a → calls[j]? = some b →
      (a.delivery config).tag? = (b.delivery config).tag? →
      resultAt config calls i = some (.ok .verified) →
      resultAt config calls j = some (.ok .verified) → i = j := by
  intro h
  have heq := h sampleConfig (.seconds 600) sampleDivision _ _ 0 1 rfl (by decide +kernel)
    within_sampleDivision collisionFree_sampleDivision rfl rfl rfl resultAt_sampleDivision.1
    resultAt_sampleDivision.2
  exact absurd heq (by decide)

end WebhookAuth.Verifier
