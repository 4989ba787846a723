import WebhookAuth.Proofs.Authenticity
import WebhookAuth.Proofs.HeaderLookup
import WebhookAuth.Proofs.Overlong
import WebhookAuth.RawCall

/-!
# Calls with raw text

A call without surrogates is received as it is verified (`Verifier.receive_raw`). Any other one has
no verdict just if a text that has to be encoded has a surrogate (`Verifier.MeetsUnencodable`): its
body, or, once its headers are there and its timestamp lies in the window, its timestamp or the
nonce that counts. It is left at that, and the store is not reached
(`MeetsUnencodable.receiveOver_eq`).
-/

namespace WebhookAuth

/-! ### Raw headers -/

section Headers

variable {Value Value' : Type} {names : HeaderNames} {role : Role}

/-- The value of the header with a role in a bag of raw fields: the first that is not blank under
its names, in their order. -/
def rawHeader? (names : HeaderNames) (fields : List (RawText × RawText)) (role : Role) :
    Option RawText :=
  (names.lookupOrder role).findSome? fun name =>
    ((fields.find? fun field => field.1.characters.toOption.map Text.lower = some name).map
      (·.2)).filter fun value => !value.isBlank

theorem isBlank_of_rawHeader? {fields : List (RawText × RawText)} {value : RawText}
    (h : rawHeader? names fields role = some value) : value.isBlank = false := by
  obtain ⟨name, -, hvalue⟩ := List.exists_of_findSome?_eq_some h
  simpa using (Option.filter_eq_some_iff.1 hvalue).2

theorem firstValue?_filterMap_characters (fields : List (RawText × RawText)) (name : String) :
    firstValue? (fields.filterMap fun field =>
        (field.1.characters.toOption).map (·, field.2)) name =
      (fields.find? fun field => field.1.characters.toOption.map Text.lower = some name).map
        (·.2) := by
  unfold firstValue?
  induction fields with
  | nil => rfl
  | cons field fields ih =>
    rw [List.filterMap_cons, List.find?_cons]
    cases field.1.characters.toOption with
    | none => simpa using ih
    | some text =>
      by_cases hname : Text.lower text = name
      · simp [hname]
      · simpa [hname] using ih

/-- A raw delivery has the values of its three headers. -/
theorem Delivery.ofRawFields_eq (names : HeaderNames) (body : Bytes)
    (fields : List (RawText × RawText)) :
    Delivery.ofRawFields names body fields =
      ⟨body, rawHeader? names fields .timestamp, rawHeader? names fields .signature,
        rawHeader? names fields .nonce⟩ := by
  have hheader (role : Role) :
      headerBy? RawText.isBlank names (fields.filterMap fun field =>
        (field.1.characters.toOption).map (·, field.2)) role = rawHeader? names fields role := by
    unfold headerBy? rawHeader?
    simp only [firstValue?_filterMap_characters]
  rw [Delivery.ofRawFields, Delivery.gather_eq, hheader, hheader, hheader]

/-- A header is found in fields with other values as it was, if the same values are blank. -/
theorem headerBy?_map (f : Value → Value') {isBlank : Value → Bool} {isBlank' : Value' → Bool}
    (hblank : ∀ value, isBlank' (f value) = isBlank value) (names : HeaderNames)
    (fields : Fields Value) (role : Role) :
    headerBy? isBlank' names (fields.map fun field => (field.1, f field.2)) role =
      (headerBy? isBlank names fields role).map f := by
  have hfirst (name : String) :
      firstValue? (fields.map fun field => (field.1, f field.2)) name =
        (firstValue? fields name).map f := by
    unfold firstValue?
    rw [List.find?_map, Option.map_map, Option.map_map]
    rfl
  unfold headerBy?
  induction names.lookupOrder role with
  | nil => rfl
  | cons name order ih =>
    rw [List.findSome?_cons, List.findSome?_cons, hfirst, ih]
    cases firstValue? fields name with
    | none => rfl
    | some value =>
      rw [Option.map_some, Option.filter_some, Option.filter_some, hblank]
      cases isBlank value <;> rfl

end Headers

/-- The delivery with its values as raw text. -/
def Delivery.raw (d : Delivery) : Delivery RawText where
  body := d.body
  timestamp := d.timestamp.map .ofString
  signature := d.signature.map .ofString
  nonce := d.nonce.map .ofString

theorem Delivery.ofRawFields_raw (names : HeaderNames) (body : Bytes) (fields : Fields) :
    Delivery.ofRawFields names body
        (fields.map fun field => (.ofString field.1, .ofString field.2)) =
      (Delivery.ofFields names body fields).raw := by
  have hnames : (fields.map fun field : String × String =>
      (RawText.ofString field.1, RawText.ofString field.2)).filterMap
        (fun field => (field.1.characters.toOption).map (·, field.2)) =
      fields.map fun field => (field.1, RawText.ofString field.2) := by
    rw [List.filterMap_map]
    rw [← List.filterMap_eq_map]
    refine List.filterMap_congr fun field _ => ?_
    rw [Function.comp_apply, RawText.characters_ofString]
    rfl
  rw [Delivery.ofRawFields, hnames, Delivery.gather_eq, Delivery.ofFields, Delivery.gather_eq]
  simp only [headerBy?_map RawText.ofString RawText.isBlank_ofString]
  rfl

/-! ### Raw timestamps -/

namespace Timestamp

variable {value : RawText} {declared : DateTime} {count : ℕ}

theorem isAware_of_ofIso {text : List Char} (h : ofIso text = .ok declared) :
    declared.isAware = true := by
  unfold ofIso at h
  split at h
  · cases h
  · exact DateTime.isAware_of_ofInstant (mapError_eq_ok_iff.1 h)

theorem isAware_of_readRaw (h : readRaw value = .ok declared) : declared.isAware = true := by
  unfold readRaw at h
  split at h
  · exact isAware_of_read h
  · split at h
    · exact isAware_of_ofIso h
    · cases h

theorem ofIso_ne_tooManyDigits {text : List Char} {refusal : Numeral.TooManyDigits} :
    ofIso text ≠ .error (.tooManyDigits refusal) := by
  unfold ofIso
  split
  · simp
  · exact mapError_outOfRange_ne _

/-- Only the raw text of a string is refused for its digits. -/
theorem readRaw_eq_tooManyDigits_iff :
    readRaw value = .error (.tooManyDigits ⟨count⟩) ↔
      ∃ text, value = .ofString text ∧ IsOverlong text count := by
  constructor
  · intro h
    unfold readRaw at h
    cases hcharacters : value.characters with
    | ok text =>
      rw [hcharacters] at h
      exact ⟨text, RawText.characters_eq_ok_iff.1 hcharacters, read_eq_tooManyDigits_iff.1 h⟩
    | error e =>
      rw [hcharacters] at h
      dsimp only at h
      split at h
      · exact absurd h ofIso_ne_tooManyDigits
      · cases h
  · rintro ⟨text, rfl, hoverlong⟩
    rw [readRaw_ofString]
    exact read_eq_tooManyDigits_iff.2 hoverlong

end Timestamp

namespace Verifier

variable {config : Config} {d : Delivery} {now : DateTime} {timestamp signature : String}

/-! ### Calls without surrogates -/

theorem nonceOf_raw (config : Config) (d : Delivery) :
    nonceOf config d.raw = (nonceOf config d).map .ofString := by
  unfold nonceOf
  split_ifs <;> rfl

theorem signedTexts_raw (config : Config) (d : Delivery) (timestamp : String) :
    signedTexts config d.raw (.ofString timestamp) = .ok (timestamp, nonceOf config d) := by
  unfold signedTexts
  rw [RawText.characters_ofString, nonceOf_raw]
  cases nonceOf config d with
  | none => rfl
  | some nonce =>
    dsimp only [Option.map_some, bind, Except.bind]
    rw [RawText.characters_ofString]
    rfl

/-- The nonce that counts still counts when it is all there is. -/
theorem nonceOf_nonceOf (config : Config) (d : Delivery) (body : Bytes)
    (timestamp signature : Option String) :
    nonceOf config ⟨body, timestamp, signature, nonceOf config d⟩ = nonceOf config d := by
  unfold nonceOf
  split_ifs <;> rfl

/-- Of a delivery a signed plan reads the body and the nonce that counts. -/
theorem planSigned_congr {d' : Delivery} (hbody : d'.body = d.body)
    (hnonce : nonceOf config d' = nonceOf config d) :
    planSigned config d' timestamp signature now = planSigned config d timestamp signature now := by
  unfold planSigned signedMessage planReservation
  rw [hbody, hnonce]

theorem planRaw_raw (config : Config) (d : Delivery) (now : DateTime) :
    planRaw config d.raw now = plan config d now := by
  have hsigned (timestamp signature : String) :
      planRawSigned config d.raw (.ofString timestamp) (.ofString signature) now =
        planSigned config d timestamp signature now := by
    unfold planRawSigned
    rw [signedTexts_raw]
    dsimp only
    rw [RawText.characters_ofString]
    exact planSigned_congr rfl (nonceOf_nonceOf config d _ _ _)
  unfold planRaw plan planHeaders planDated Delivery.raw
  dsimp only
  cases d.timestamp with
  | none => rfl
  | some timestamp =>
    cases d.signature with
    | none => rfl
    | some signature =>
      dsimp only [Option.map_some]
      rw [Option.isNone_map, Timestamp.readRaw_ofString]
      congr 1
      exact congrArg _ (hsigned timestamp signature)

/-- A call without surrogates is received as it is verified, over any kind of store. -/
theorem receiveOver_raw {Store : Type} (reserve : Reserver Store) (config : Config) (store : Store)
    (call : Call) :
    receiveOver reserve config store call.raw = verifyOver reserve config store call := by
  have hreport : (fun reason => LogEntry.ofRejection reason (call.delivery config).raw.nonce) =
      (.rejected · (call.delivery config).nonce) := by
    funext reason
    exact LogEntry.ofRejection_map_ofString reason _
  unfold receiveOver Call.raw
  dsimp only [Payload.encode]
  rw [Delivery.ofRawFields_raw, planRaw_raw]
  exact congrArg (carryOutWith · reserve store call.caller call.now _) hreport

theorem receive_raw (config : Config) (store : NonceStore) (call : Call) :
    receive config store call.raw = verify config store call :=
  receiveOver_raw NonceStore.reserve config store call

/-! ### Texts that cannot be encoded -/

/-- The raw delivery that a call is about, if these are the bytes of its body. -/
def RawCall.delivery (config : Config) (call : RawCall) (body : Bytes) : Delivery RawText :=
  .ofRawFields config.names body call.fields

theorem RawCall.delivery_eq (config : Config) (call : RawCall) (body : Bytes) :
    call.delivery config body =
      ⟨body, rawHeader? config.names call.fields .timestamp,
        rawHeader? config.names call.fields .signature,
        rawHeader? config.names call.fields .nonce⟩ :=
  Delivery.ofRawFields_eq _ _ _

/-- What the checks that need no store decide about a call. -/
def RawCall.plan (config : Config) (call : RawCall) : Except Fault Plan :=
  match call.body.encode with
  | .error e => .error (.unencodable e)
  | .ok body => planRaw config (call.delivery config body) call.now

theorem RawCall.plan_eq {call : RawCall} {body : Bytes} (h : call.body.encode = .ok body) :
    call.plan config = planRaw config (call.delivery config body) call.now := by
  rw [RawCall.plan, h]

/-- What is decided about a call is carried out. -/
theorem receiveOver_eq {Store : Type} (reserve : Reserver Store) (config : Config) (store : Store)
    (call : RawCall) :
    receiveOver reserve config store call =
      carryOutWith (LogEntry.ofRejection · (rawHeader? config.names call.fields .nonce)) reserve
        store call.caller call.now (call.plan config) := by
  unfold receiveOver RawCall.plan
  cases call.body.encode with
  | error e => rfl
  | ok body =>
    dsimp only
    rw [← RawCall.delivery, RawCall.delivery_eq]

/-- A text that has to be encoded has a surrogate: the body; or, when the headers are there and the
timestamp lies in the window, the timestamp or the nonce that counts. -/
inductive MeetsUnencodable (config : Config) (call : RawCall) : Unencodable → Prop
  | body {e : Unencodable} (h : call.body.encode = .error e) : MeetsUnencodable config call e
  | signed {e : Unencodable} {body : Bytes} {timestamp signature : RawText} {declared : DateTime}
      (encoded : call.body.encode = .ok body)
      (headers : HasHeaders config (call.delivery config body) timestamp signature)
      (read : Timestamp.readRaw timestamp = .ok declared)
      (inWindow : config.InWindow declared call.now)
      (texts : signedTexts config (call.delivery config body) timestamp = .error e) :
      MeetsUnencodable config call e

/-- A call without surrogates meets no text that cannot be encoded. -/
theorem Call.not_meetsUnencodable_raw (config : Config) (call : Call) (e : Unencodable) :
    ¬MeetsUnencodable config call.raw e := by
  rintro (hbody | ⟨hencoded, hheaders, -, -, htexts⟩)
  · cases hbody
  · cases hencoded
    have hdelivery : call.raw.delivery config call.body = (call.delivery config).raw :=
      Delivery.ofRawFields_raw _ _ _
    rw [hdelivery] at hheaders htexts
    obtain ⟨timestamp, -, rfl⟩ := Option.map_eq_some_iff.1 hheaders.timestamp_eq
    rw [signedTexts_raw] at htexts
    cases htexts

theorem MeetsUnencodable.plan_eq {call : RawCall} {e : Unencodable}
    (h : MeetsUnencodable config call e) (hskew : config.skew.micros ≤ Config.maxSkewMicros)
    (hnow : call.now.isAware = true) : call.plan config = .error (.unencodable e) := by
  cases h with
  | body h => rw [RawCall.plan, h]
  | @signed body timestamp signature declared encoded headers read inWindow texts =>
    rw [RawCall.plan_eq encoded, planRaw, headers.planHeaders_eq, read]
    dsimp only [planWindow]
    rw [Config.isWithinWindow_eq hskew (Timestamp.isAware_of_readRaw read) hnow,
      decide_eq_true inWindow]
    dsimp only
    rw [planRawSigned, texts]

/-- The call has no verdict, and the store is not reached. -/
theorem MeetsUnencodable.receiveOver_eq {call : RawCall} {e : Unencodable}
    (h : MeetsUnencodable config call e) (hskew : config.skew.micros ≤ Config.maxSkewMicros)
    (hnow : call.now.isAware = true) {Store : Type} (reserve : Reserver Store) (store : Store) :
    receiveOver reserve config store call = ⟨.error (.unencodable e), store, [], []⟩ := by
  rw [Verifier.receiveOver_eq, h.plan_eq hskew hnow]
  rfl

end Verifier

end WebhookAuth
