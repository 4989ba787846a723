import Mathlib.Tactic
import WebhookAuth.Delivery
import WebhookAuth.Proofs.Trimming
import WebhookAuth.Signature

/-!
# What the signed bytes tell

The UTF-8 bytes of a text tell the text (`Utf8.encode_injective`), and have the byte of a line feed
just where it has one (`Utf8.lineFeed_mem_encode_iff`). Hence the signed bytes tell timestamp, nonce
and body, if timestamp and nonce have no line feed (`Signature.canonicalMessage_inj`), and tell any
of the three from the two others whatever they are (`Signature.canonicalMessage_binds`).
-/

namespace WebhookAuth

namespace Utf8

theorem encode_injective : Function.Injective encode := by
  intro s t h
  rw [← String.toByteArray_inj, ← String.utf8Encode_toList, ← String.utf8Encode_toList]
  exact congrArg List.toByteArray h

theorem lineFeed_mem_utf8EncodeChar_iff (c : Char) :
    Signature.lineFeed ∈ String.utf8EncodeChar c ↔ c = '\n' := by
  have hval : c = '\n' ↔ c.val.toNat = 10 := by
    rw [Char.ext_iff, ← UInt32.toNat_inj]
    rfl
  rw [hval]
  unfold String.utf8EncodeChar
  generalize c.val.toNat = v
  dsimp only
  -- in a form of several bytes each of them is 128 or more
  split_ifs with h1 h2 h3
  all_goals
    simp only [List.mem_cons, List.not_mem_nil, or_false, ← UInt8.toNat_inj, UInt8.toNat_ofNat',
      show Signature.lineFeed.toNat = 10 from rfl]
    omega

theorem lineFeed_mem_encode_iff {text : String} :
    Signature.lineFeed ∈ encode text ↔ '\n' ∈ text.toList := by
  unfold encode
  rw [List.mem_flatMap]
  constructor
  · rintro ⟨c, hc, hbyte⟩
    rw [lineFeed_mem_utf8EncodeChar_iff] at hbyte
    rwa [← hbyte]
  · intro h
    exact ⟨'\n', h, (lineFeed_mem_utf8EncodeChar_iff '\n').2 rfl⟩

end Utf8

namespace Signature

variable {t t' : String} {n n' : Option String} {b b' : Bytes}

theorem canonicalMessage_eq (t : String) (n : Option String) (b : Bytes) :
    canonicalMessage t n b =
      Utf8.encode t ++ lineFeed :: (Utf8.encode (n.getD "") ++ lineFeed :: b) := by
  rw [canonicalMessage, List.append_assoc, List.cons_append]

/-- The signed bytes tell their parts, if timestamps and nonces have no line feed. -/
theorem canonicalMessage_inj (ht : '\n' ∉ t.toList) (ht' : '\n' ∉ t'.toList)
    (hn : '\n' ∉ (n.getD "").toList) (hn' : '\n' ∉ (n'.getD "").toList)
    (h : canonicalMessage t n b = canonicalMessage t' n' b') :
    t = t' ∧ n.getD "" = n'.getD "" ∧ b = b' := by
  rw [← Utf8.lineFeed_mem_encode_iff] at ht ht' hn hn'
  rw [canonicalMessage_eq, canonicalMessage_eq] at h
  obtain ⟨htext, hrest⟩ := Text.eq_of_append_cons_eq ht ht' h
  obtain ⟨hnonce, hbody⟩ := Text.eq_of_append_cons_eq hn hn' hrest
  exact ⟨Utf8.encode_injective htext, Utf8.encode_injective hnonce, hbody⟩

theorem canonicalMessage_congr (hn : n.getD "" = n'.getD "") :
    canonicalMessage t n b = canonicalMessage t n' b := by
  rw [canonicalMessage_eq, canonicalMessage_eq, hn]

theorem timestamp_eq_of_canonicalMessage (h : canonicalMessage t n b = canonicalMessage t' n b) :
    t = t' := by
  rw [canonicalMessage_eq, canonicalMessage_eq] at h
  exact Utf8.encode_injective (List.append_cancel_right h)

theorem nonce_eq_of_canonicalMessage (h : canonicalMessage t n b = canonicalMessage t n' b) :
    n.getD "" = n'.getD "" := by
  rw [canonicalMessage_eq, canonicalMessage_eq] at h
  have hrest := (List.cons.inj (List.append_cancel_left h)).2
  exact Utf8.encode_injective (List.append_cancel_right hrest)

theorem body_eq_of_canonicalMessage (h : canonicalMessage t n b = canonicalMessage t n b') :
    b = b' := by
  unfold canonicalMessage at h
  exact (List.cons.inj (List.append_cancel_left h)).2

/-- The signed bytes bind their parts. If timestamps and nonces have no line feed, the bytes are the
same just for the same parts; and whatever the parts are, no other value of one of them alone gives
the same bytes. An absent nonce counts as the empty one, and a body as its bytes. -/
theorem canonicalMessage_binds (t t' : String) (n n' : Option String) (b b' : Payload) :
    ((∀ text ∈ [t, t', n.getD "", n'.getD ""], '\n' ∉ text.toList) →
        (canonicalMessage t n b.bytes = canonicalMessage t' n' b'.bytes ↔
          t = t' ∧ n.getD "" = n'.getD "" ∧ b.bytes = b'.bytes)) ∧
      (t ≠ t' → n.getD "" = n'.getD "" → b.bytes = b'.bytes →
        canonicalMessage t n b.bytes ≠ canonicalMessage t' n' b'.bytes) ∧
      (t = t' → n.getD "" ≠ n'.getD "" → b.bytes = b'.bytes →
        canonicalMessage t n b.bytes ≠ canonicalMessage t' n' b'.bytes) ∧
      (t = t' → n.getD "" = n'.getD "" → b.bytes ≠ b'.bytes →
        canonicalMessage t n b.bytes ≠ canonicalMessage t' n' b'.bytes) := by
  refine ⟨fun hfree => ⟨fun h => ?_, ?_⟩, fun ht hn hb h => ht ?_, ?_, ?_⟩
  · simp only [List.forall_mem_cons] at hfree
    obtain ⟨ht, ht', hn, hn', -⟩ := hfree
    exact canonicalMessage_inj ht ht' hn hn' h
  · rintro ⟨rfl, hn, hb⟩
    rw [hb]
    exact canonicalMessage_congr hn
  · rw [hb, canonicalMessage_congr hn] at h
    exact timestamp_eq_of_canonicalMessage h
  · rintro rfl hn hb h
    rw [hb] at h
    exact hn (nonce_eq_of_canonicalMessage h)
  · rintro rfl hn hb h
    rw [canonicalMessage_congr hn] at h
    exact hb (body_eq_of_canonicalMessage h)

/-- An absent nonce is the empty one and a body its bytes, line feeds and all; another nonce alone
changes the bytes, line feed or not. -/
theorem canonicalMessage_binds_samples :
    canonicalMessage "300" none (Payload.raw [120, 10, 121]).bytes =
        canonicalMessage "300" (some "") (Payload.text "x\ny").bytes ∧
      canonicalMessage "300" (some "n\nx") (Payload.raw [121]).bytes ≠
        canonicalMessage "300" (some "n") (Payload.raw [121]).bytes := by
  refine ⟨?_, ?_⟩
  · exact ((canonicalMessage_binds "300" "300" none (some "") (.raw [120, 10, 121])
      (.text "x\ny")).1 (by decide)).2 ⟨rfl, rfl, by decide⟩
  · exact (canonicalMessage_binds "300" "300" (some "n\nx") (some "n") (.raw [121])
      (.raw [121])).2.2.1 rfl (by decide) rfl

theorem isValid_eq_ok_true_iff {secret message : Bytes} {value : String} :
    isValid secret message value = .ok true ↔ decode value = .ok (tag secret message) := by
  unfold isValid
  cases decode value with
  | error e => simp [Except.map]
  | ok found => simp [Except.map]

end Signature

/-- The tag that the signature header of a delivery gives. -/
def Delivery.tag? (d : Delivery) : Option Bytes :=
  d.signature.bind fun signature => (Signature.decode signature).toOption

end WebhookAuth
