import Mathlib.Tactic
import WebhookAuth.Proofs.Checks
import WebhookAuth.Proofs.Interchange
import WebhookAuth.Proofs.QuotedText
import WebhookAuth.Proofs.Replies
import WebhookAuth.Proofs.Trimming
import WebhookAuth.Proofs.Wording

/-!
# Log lines

A call of the verifier that rejects a delivery, or that verifies it and reserves its nonce, is
reported in one line, and no other call is (`Verifier.log_receiveOver`). The nonce in the line comes
from outside. It is written in quotes, so that the line has printable characters only and tells the
report, whatever the nonce is, surrogates included (`Verifier.reports_tell_outcomes`). So the lines
of a log, one below the other, tell all its reports (`LogEntry.textOf_injective`).
-/

namespace WebhookAuth

namespace LogEntry

variable {e e' : LogEntry} {c : Char} {reason reason' : Reason}

/-- The name in which the verifier writes. -/
def verifierChannel : String := "swish_webhook_verifier.verifier"

/-- The entry reports what came of a delivery. -/
inductive IsReport : LogEntry → Prop
  | rejected (reason : Reason) (nonce : Option RawText) : IsReport (.ofRejection reason nonce)
  | accepted (nonce : String) : IsReport (.accepted nonce)

/-- A rejection is reported with its nonce as a string, or as the raw text that it is. -/
theorem ofRejection_cases (reason : Reason) (nonce : Option RawText) :
    (∃ text : Option String, nonce = text.map .ofString ∧
        ofRejection reason nonce = .rejected reason text) ∨
      ∃ raw, nonce = some raw ∧ ofRejection reason nonce = .rejectedRaw reason raw := by
  cases nonce with
  | none => exact .inl ⟨none, rfl, rfl⟩
  | some raw =>
    unfold ofRejection
    dsimp only
    cases hraw : raw.characters with
    | ok text => exact .inl ⟨some text, congrArg some (RawText.characters_eq_ok_iff.1 hraw), rfl⟩
    | error e => exact .inr ⟨raw, rfl, rfl⟩

/-- Reports are written in the name of the verifier. -/
theorem IsReport.channel_eq (h : IsReport e) : e.channel = verifierChannel := by
  cases h with
  | rejected reason nonce =>
    rcases ofRejection_cases reason nonce with ⟨text, -, h⟩ | ⟨raw, -, h⟩ <;> rw [h] <;> rfl
  | accepted nonce => rfl

theorem level_ofRejection (reason : Reason) (nonce : Option RawText) :
    (ofRejection reason nonce).level = "WARNING" := by
  rcases ofRejection_cases reason nonce with ⟨text, -, h⟩ | ⟨raw, -, h⟩ <;> rw [h] <;> rfl

/-! ### What a line tells -/

/-- How the line of a rejection starts. -/
def rejectedLead : String :=
  "WARNING swish_webhook_verifier.verifier Webhook verification failed: reason="

/-- How the line of an acceptance starts. -/
def acceptedLead : String := "DEBUG swish_webhook_verifier.verifier Webhook accepted: nonce="

theorem message_ofRejection (reason : Reason) (nonce : Option RawText) :
    (ofRejection reason nonce).message = "Webhook verification failed: reason=" ++ reason.name ++
      " nonce=" ++ RawText.quotedOption nonce := by
  rcases ofRejection_cases reason nonce with ⟨text, rfl, h⟩ | ⟨raw, rfl, h⟩
  · rw [h]
    cases text with
    | none => rfl
    | some text =>
      rw [RawText.quotedOption, Option.map_some, Option.elim_some, RawText.quoted_ofString]
      rfl
  · rw [h]
    rfl

theorem toList_line_ofRejection (reason : Reason) (nonce : Option RawText) :
    (ofRejection reason nonce).line.toList = rejectedLead.toList ++
      (reason.name.toList ++ ' ' :: ("nonce=".toList ++ (RawText.quotedOption nonce).toList)) := by
  have hlead : rejectedLead = "WARNING" ++ " " ++ "swish_webhook_verifier.verifier" ++ " " ++
      "Webhook verification failed: reason=" := by decide +kernel
  have hnonce : ' ' :: "nonce=".toList = " nonce=".toList := by decide +kernel
  have hchannel := (IsReport.rejected reason nonce).channel_eq
  unfold line toString instToStringString
  rw [message_ofRejection, level_ofRejection, hchannel, hlead, ← List.cons_append, hnonce,
    verifierChannel]
  simp only [String.toList_append, List.append_assoc]

theorem toList_line_accepted (nonce : String) :
    (accepted nonce).line.toList =
      acceptedLead.toList ++ (RawText.ofString nonce).quoted.toList := by
  have hlead : acceptedLead = "DEBUG" ++ " " ++ "swish_webhook_verifier.verifier" ++ " " ++
      "Webhook accepted: nonce=" := by decide +kernel
  unfold line message toString instToStringString level channel
  dsimp only
  rw [hlead, RawText.quoted_ofString]
  simp only [String.toList_append, List.append_assoc]

theorem line_ofRejection_inj {nonce nonce' : Option RawText}
    (h : (ofRejection reason nonce).line = (ofRejection reason' nonce').line) :
    reason = reason' ∧ nonce = nonce' := by
  -- the name of the reason ends at the first space
  have hspace (reason : Reason) : ' ' ∉ reason.name.toList := by
    cases reason <;> decide +kernel
  have hlist := congrArg String.toList h
  rw [toList_line_ofRejection, toList_line_ofRejection] at hlist
  obtain ⟨hname, hrest⟩ := Text.eq_of_append_cons_eq (hspace reason) (hspace reason')
    (List.append_cancel_left hlist)
  exact ⟨Reason.name_injective (String.toList_inj.1 hname),
    RawText.quotedOption_injective (String.toList_inj.1 (List.append_cancel_left hrest))⟩

theorem line_accepted_inj {nonce nonce' : String}
    (h : (accepted nonce).line = (accepted nonce').line) : nonce = nonce' := by
  have hlist := congrArg String.toList h
  rw [toList_line_accepted, toList_line_accepted] at hlist
  exact RawText.ofString_inj.1
    (RawText.quoted_injective (String.toList_inj.1 (List.append_cancel_left hlist)))

theorem line_ofRejection_ne_line_accepted (reason : Reason) (nonce : Option RawText)
    (nonce' : String) : (ofRejection reason nonce).line ≠ (accepted nonce').line := by
  intro h
  have hlevel : rejectedLead.toList.head? = some 'W' ∧ acceptedLead.toList.head? = some 'D' := by
    decide +kernel
  have hfirst := congrArg (·.toList.head?) h
  simp only [toList_line_ofRejection, toList_line_accepted, List.head?_append, hlevel.1, hlevel.2,
    Option.some_or] at hfirst
  exact absurd hfirst (by decide)

/-- The line of a report tells the report. -/
theorem IsReport.line_inj (h : IsReport e) (h' : IsReport e') : e.line = e'.line ↔ e = e' := by
  refine ⟨fun hline => ?_, fun heq => congrArg line heq⟩
  cases h with
  | rejected reason nonce =>
    cases h' with
    | rejected reason' nonce' =>
      obtain ⟨rfl, rfl⟩ := line_ofRejection_inj hline
      rfl
    | accepted nonce' => exact absurd hline (line_ofRejection_ne_line_accepted reason nonce nonce')
  | accepted nonce =>
    cases h' with
    | rejected reason' nonce' =>
      exact absurd hline.symm (line_ofRejection_ne_line_accepted reason' nonce' nonce)
    | accepted nonce' => rw [line_accepted_inj hline]

/-! ### What a line is written with -/

/-- The line of a report is printable, whatever the nonce is. -/
theorem IsReport.isPrintable_of_mem_line (h : IsReport e) (hc : c ∈ e.line.toList) :
    Text.isPrintable c = true := by
  cases h with
  | rejected reason nonce =>
    have hlead : Text.isVisible rejectedLead.toList = true := by decide +kernel
    have hname : Text.isVisible reason.name.toList = true := by cases reason <;> decide +kernel
    have hnonce : Text.isVisible (' ' :: "nonce=".toList) = true := by decide +kernel
    rw [toList_line_ofRejection, ← List.cons_append, List.mem_append, List.mem_append,
      List.mem_append] at hc
    rcases hc with hc | hc | hc | hc
    · exact Text.isPrintable_of_isVisible hlead c hc
    · exact Text.isPrintable_of_isVisible hname c hc
    · exact Text.isPrintable_of_isVisible hnonce c hc
    · exact RawText.isPrintable_of_mem_quotedOption hc
  | accepted nonce =>
    have hlead : Text.isVisible acceptedLead.toList = true := by decide +kernel
    rw [toList_line_accepted, List.mem_append] at hc
    rcases hc with hc | hc
    · exact Text.isPrintable_of_isVisible hlead c hc
    · exact RawText.isPrintable_of_mem_quoted hc

/-- So it is one line. -/
theorem IsReport.not_mem_line (h : IsReport e) : '\n' ∉ e.line.toList ∧ '\r' ∉ e.line.toList := by
  have hcontrol (c : Char) (hc : c.toNat < 32) : c ∉ e.line.toList := by
    intro hmem
    have hvisible := (Text.isPrintable_ascii (by omega)).1 (h.isPrintable_of_mem_line hmem)
    omega
  exact ⟨hcontrol '\n' (by decide), hcontrol '\r' (by decide)⟩

/-! ### Many lines -/

/-- The lines of a log, each ended by a line feed. -/
def textOf (log : List LogEntry) : List Char := log.flatMap fun e => e.line.toList ++ ['\n']

theorem textOf_cons (e : LogEntry) (log : List LogEntry) :
    textOf (e :: log) = e.line.toList ++ '\n' :: textOf log := by
  rw [textOf, List.flatMap_cons, List.append_assoc]
  rfl

/-- The text of a log of reports tells all of them: none can pass for two, or for another. -/
theorem textOf_injective {log log' : List LogEntry} (hlog : ∀ e ∈ log, IsReport e)
    (hlog' : ∀ e ∈ log', IsReport e) (h : textOf log = textOf log') : log = log' := by
  induction log generalizing log' with
  | nil =>
    cases log' with
    | nil => rfl
    | cons e' log' =>
      rw [textOf_cons] at h
      exact absurd h.symm (List.append_ne_nil_of_right_ne_nil _ (List.cons_ne_nil _ _))
  | cons e log ih =>
    cases log' with
    | nil =>
      rw [textOf_cons] at h
      exact absurd h (List.append_ne_nil_of_right_ne_nil _ (List.cons_ne_nil _ _))
    | cons e' log' =>
      rw [List.forall_mem_cons] at hlog hlog'
      rw [textOf_cons, textOf_cons] at h
      -- no line has a line feed, so the first one ends where the first line does
      obtain ⟨hline, hrest⟩ :=
        Text.eq_of_append_cons_eq hlog.1.not_mem_line.1 hlog'.1.not_mem_line.1 h
      rw [(hlog.1.line_inj hlog'.1).1 (String.toList_inj.1 hline), ih hlog.2 hlog'.2 hrest]

end LogEntry

namespace Verifier

open LogEntry

variable {Store : Type} {config config' : Config} {call : RawCall} {nonce nonce' : Option RawText}
  {result result' : Except Fault Verdict} {e e' : LogEntry}

/-! ### What is reported -/

/-- What is reported of a result for a delivery with this nonce header: a rejection with it, or an
acceptance with it if it counts. -/
def reportOf (config : Config) (nonce : Option RawText) : Except Fault Verdict → List LogEntry
  | .ok (.rejected reason _) => [.ofRejection reason nonce]
  | .ok .verified =>
    if config.policy = .disabled then []
    else (nonce.bind fun nonce => nonce.characters.toOption).toList.map .accepted
  | .error _ => []

/-- What the store logs in a call. -/
def storeLog (reserve : Reserver Store) (config : Config) (store : Store) (call : RawCall) :
    List LogEntry :=
  match call.plan config with
  | .ok (.reserve nonce expires) => (reserve store call.caller nonce expires call.now).log
  | _ => []

theorem mem_reportOf_iff : e ∈ reportOf config nonce result ↔
    (∃ reason detail, result = .ok (.rejected reason detail) ∧ e = .ofRejection reason nonce) ∨
      ∃ text, result = .ok .verified ∧ config.policy ≠ .disabled ∧ nonce = some (.ofString text) ∧
        e = .accepted text := by
  cases result with
  | error fault => simp [reportOf]
  | ok verdict =>
    cases verdict with
    | rejected reason detail => simp [reportOf]
    | verified =>
      unfold reportOf
      split_ifs with hpolicy
      · simp [hpolicy]
      · simp only [List.mem_map, Option.mem_toList, RawText.bind_characters_eq_some_iff]
        simp [hpolicy, @eq_comm _ e]

theorem isReport_of_mem_reportOf (h : e ∈ reportOf config nonce result) : IsReport e := by
  rcases mem_reportOf_iff.1 h with ⟨reason, detail, -, rfl⟩ | ⟨text, -, -, -, rfl⟩
  · exact .rejected reason nonce
  · exact .accepted text

theorem reportOf_verified_of_counts {text : String} (hpolicy : config.policy ≠ .disabled) :
    reportOf config (some (.ofString text)) (.ok .verified) = [.accepted text] := by
  rw [reportOf, if_neg hpolicy, Option.bind_some, RawText.characters_ofString]
  rfl

/-- A reservation is reported below what the store logs of it. -/
theorem log_ofReservation {text : String} (hpolicy : config.policy ≠ .disabled)
    (r : Reservation Store) :
    (ofReservation text r).log =
      r.log ++ reportOf config (some (.ofString text)) (ofReservation text r).result := by
  have hrejected (reason : Reason) :
      ofRejection reason (some (.ofString text)) = .rejected reason (some text) :=
    ofRejection_map_ofString reason (some text)
  unfold ofReservation
  split
  · rw [rejected, reportOf, hrejected]
  · rw [reportOf, List.append_nil]
  · rw [rejected, reportOf, hrejected]
  · rw [reportOf_verified_of_counts hpolicy]

/-- The nonce header of a call that is not rejected counts just if the nonce is reserved. -/
theorem plan_eq_ok_cases {p : Plan} (h : call.plan config = .ok p) :
    (∃ reason detail, p = .reject reason detail) ∨
      (reportOf config (rawHeader? config.names call.fields .nonce) (.ok .verified) = [] ∧
        p = .accept) ∨
      ∃ nonce expires, config.policy ≠ .disabled ∧
        rawHeader? config.names call.fields .nonce = some (.ofString nonce) ∧
        p = .reserve nonce expires := by
  unfold RawCall.plan at h
  split at h
  · cases h
  rename_i body _
  rw [RawCall.delivery_eq] at h
  rcases planRaw_eq_ok_cases h with hreject | ⟨hnonce, rfl⟩ | ⟨nonce, expires, hnonce, rfl⟩
  · exact .inl hreject
  · refine .inr (.inl ⟨?_, rfl⟩)
    unfold nonceOf at hnonce
    unfold reportOf
    split_ifs at hnonce ⊢ with hpolicy
    · rfl
    · dsimp only at hnonce
      rw [hnonce]
      rfl
  · unfold nonceOf at hnonce
    split_ifs at hnonce with hpolicy
    exact .inr (.inr ⟨nonce, expires, hpolicy, hnonce, rfl⟩)

/-- A call logs what its store does, and below that the report of its result. -/
theorem log_receiveOver (reserve : Reserver Store) (config : Config) (store : Store)
    (call : RawCall) :
    (receiveOver reserve config store call).log = storeLog reserve config store call ++
      reportOf config (rawHeader? config.names call.fields .nonce)
        (receiveOver reserve config store call).result := by
  rw [receiveOver_eq]
  unfold storeLog
  cases hplan : call.plan config with
  | error fault => rfl
  | ok p =>
    rcases plan_eq_ok_cases hplan with ⟨reason, detail, rfl⟩ | ⟨hnone, rfl⟩ |
      ⟨nonce, expires, hpolicy, hnonce, rfl⟩
    · rfl
    · exact hnone.symm
    · rw [hnonce]
      exact log_ofReservation hpolicy _

theorem storeLog_memory (config : Config) (s : MemoryStore) (call : RawCall) :
    storeLog NonceStore.reserve config (.memory s) call = [] := by
  unfold storeLog
  split <;> rfl

/-- No store logs in the name of the verifier. -/
theorem channel_ne_of_mem_storeLog {s : NonceStore}
    (h : e ∈ storeLog NonceStore.reserve config s call) : e.channel ≠ verifierChannel := by
  cases s with
  | memory s =>
    rw [storeLog_memory] at h
    cases h
  | remote s =>
    unfold storeLog at h
    split at h
    · rename_i nonce expires hplan
      have hmem : e ∈ RemoteStore.logOf (s.reserve call.caller nonce expires call.now).answer := by
        rw [← s.log_reserve]
        exact h
      unfold RemoteStore.logOf at hmem
      split at hmem
      · rw [List.mem_singleton] at hmem
        rw [hmem]
        decide
      · cases hmem
    · cases h

/-- A verified delivery had its nonce granted, which is reported, or none was asked for, and then
nothing is. -/
theorem reportOf_of_verified {reserve : Reserver Store} {store : Store}
    (h : (receiveOver reserve config store call).result = .ok .verified) :
    (∃ nonce expires, call.plan config = .ok (.reserve nonce expires) ∧
        (reserve store call.caller nonce expires call.now).answer = .ok true ∧
        reportOf config (rawHeader? config.names call.fields .nonce) (.ok .verified) =
          [.accepted nonce]) ∨
      (∀ nonce expires, call.plan config ≠ .ok (.reserve nonce expires)) ∧
        reportOf config (rawHeader? config.names call.fields .nonce) (.ok .verified) = [] := by
  rw [receiveOver_eq] at h
  cases hplan : call.plan config with
  | error fault =>
    rw [hplan] at h
    cases h
  | ok p =>
    rw [hplan] at h
    rcases plan_eq_ok_cases hplan with ⟨reason, detail, rfl⟩ | ⟨hnone, rfl⟩ |
      ⟨nonce, expires, hpolicy, hnonce, rfl⟩
    · cases h
    · exact .inr ⟨fun nonce expires => by simp, hnone⟩
    · refine .inl ⟨nonce, expires, rfl, result_ofReservation_eq_verified_iff.1 h, ?_⟩
      rw [hnonce, reportOf_verified_of_counts hpolicy]

/-- A rejection is a warning, an acceptance is for debugging. -/
theorem level_of_mem_reportOf (h : e ∈ reportOf config nonce result) :
    (result = .ok .verified → e.level = "DEBUG") ∧
      ((∃ reason detail, result = .ok (.rejected reason detail)) → e.level = "WARNING") := by
  rcases mem_reportOf_iff.1 h with ⟨reason, detail, rfl, rfl⟩ | ⟨text, rfl, -, -, rfl⟩
  · exact ⟨fun hverified => absurd hverified (by simp), fun _ => level_ofRejection reason nonce⟩
  · refine ⟨fun _ => rfl, ?_⟩
    rintro ⟨reason, detail, hrejected⟩
    cases hrejected

/-- Two reports are written alike if and only if they are of one outcome for one nonce. -/
theorem line_eq_line_iff (h : e ∈ reportOf config nonce result)
    (h' : e' ∈ reportOf config' nonce' result') :
    e.line = e'.line ↔
      result.map Verdict.reason? = result'.map Verdict.reason? ∧ nonce = nonce' := by
  have hmixed (reason : Reason) (nonce : Option RawText) (text : String) :
      (ofRejection reason nonce).line = (LogEntry.accepted text).line ↔ False :=
    iff_false_intro (line_ofRejection_ne_line_accepted reason nonce text)
  rcases mem_reportOf_iff.1 h with ⟨reason, detail, rfl, rfl⟩ | ⟨text, rfl, -, rfl, rfl⟩
  · rcases mem_reportOf_iff.1 h' with ⟨reason', detail', rfl, rfl⟩ | ⟨text', rfl, -, rfl, rfl⟩
    · refine ⟨fun hline => ?_, ?_⟩
      · obtain ⟨rfl, rfl⟩ := line_ofRejection_inj hline
        exact ⟨rfl, rfl⟩
      · rintro ⟨hreason, rfl⟩
        cases hreason
        rfl
    · rw [hmixed]
      simp [Except.map, Verdict.reason?]
  · rcases mem_reportOf_iff.1 h' with ⟨reason', detail', rfl, rfl⟩ | ⟨text', rfl, -, rfl, rfl⟩
    · rw [eq_comm, hmixed]
      simp [Except.map, Verdict.reason?]
    · rw [(isReport_of_mem_reportOf h).line_inj (isReport_of_mem_reportOf h')]
      simp [Except.map, RawText.ofString_inj]

/-- Over every kind of store a call logs what its store does, and below that the report of its
result, where a verified delivery is reported just if its nonce was granted; the stores themselves
do not log in the name of the verifier. Every report is in this name, a warning if the delivery is
rejected and for debugging if it is verified; it is one line of printable characters, whatever the
nonce is, and two reports have the same line only if they are of the same outcome for the same
nonce. -/
theorem reports_tell_outcomes :
    (∀ (Store : Type) (reserve : Reserver Store) (config : Config) (store : Store)
        (call : RawCall),
        (receiveOver reserve config store call).log = storeLog reserve config store call ++
          reportOf config (rawHeader? config.names call.fields .nonce)
            (receiveOver reserve config store call).result ∧
        ((receiveOver reserve config store call).result = .ok .verified →
          (∃ nonce expires, call.plan config = .ok (.reserve nonce expires) ∧
              (reserve store call.caller nonce expires call.now).answer = .ok true ∧
              reportOf config (rawHeader? config.names call.fields .nonce) (.ok .verified) =
                [.accepted nonce]) ∨
            (∀ nonce expires, call.plan config ≠ .ok (.reserve nonce expires)) ∧
              reportOf config (rawHeader? config.names call.fields .nonce) (.ok .verified) =
                [])) ∧
      (∀ (config : Config) (s : NonceStore) (call : RawCall),
        ∀ e ∈ storeLog NonceStore.reserve config s call, e.channel ≠ verifierChannel) ∧
      (∀ (config : Config) (nonce : Option RawText) (result : Except Fault Verdict),
        ∀ e ∈ reportOf config nonce result,
          e.channel = verifierChannel ∧
            (result = .ok .verified → e.level = "DEBUG") ∧
            ((∃ reason detail, result = .ok (.rejected reason detail)) → e.level = "WARNING") ∧
            (∀ c ∈ e.line.toList, Text.isPrintable c = true) ∧
            '\n' ∉ e.line.toList ∧ '\r' ∉ e.line.toList) ∧
      ∀ (config config' : Config) (nonce nonce' : Option RawText)
        (result result' : Except Fault Verdict),
        ∀ e ∈ reportOf config nonce result, ∀ e' ∈ reportOf config' nonce' result',
          e.line = e'.line ↔
            result.map Verdict.reason? = result'.map Verdict.reason? ∧ nonce = nonce' := by
  refine ⟨fun Store reserve config store call => ?_, fun config s call e he => ?_,
    fun config nonce result e he => ?_,
    fun config config' nonce nonce' result result' e he e' he' => ?_⟩
  · exact ⟨log_receiveOver reserve config store call, reportOf_of_verified⟩
  · exact channel_ne_of_mem_storeLog he
  · have hreport := isReport_of_mem_reportOf he
    obtain ⟨hverified, hrejected⟩ := level_of_mem_reportOf he
    exact ⟨hreport.channel_eq, hverified, hrejected,
      fun c hc => hreport.isPrintable_of_mem_line hc, hreport.not_mem_line⟩
  · exact line_eq_line_iff he he'

/-- A nonce with a line feed in it is reported in one line. -/
theorem sampleCall_reported :
    (verify sampleConfig (.memory .empty) (sampleCall "n\nx" [121] 6)).log = [.accepted "n\nx"] ∧
      '\n' ∉ (LogEntry.accepted "n\nx").line.toList := by
  have hask : (sampleCall "n\nx" [121] 6).Asks sampleConfig "n\nx" (sampleMinute 16) :=
    sampleCall_asks (by decide) (by decide +kernel) (by decide +kernel)
  have hresult : (receive sampleConfig (.memory .empty)
      (sampleCall "n\nx" [121] 6).raw).result = .ok .verified := by
    rw [receive_raw, hask.verify_eq]
    rfl
  have hheader : rawHeader? sampleConfig.names (sampleCall "n\nx" [121] 6).raw.fields .nonce =
      some (.ofString "n\nx") := by
    decide +kernel
  have hreport : reportOf sampleConfig (some (.ofString "n\nx")) (.ok .verified) =
      [.accepted "n\nx"] :=
    reportOf_verified_of_counts (by decide)
  obtain ⟨hlogs, -, hreports, -⟩ := reports_tell_outcomes
  refine ⟨?_, ?_⟩
  · rw [← receive_raw, receive, (hlogs NonceStore NonceStore.reserve sampleConfig _ _).1,
      ← receive, hresult, storeLog_memory, hheader, hreport, List.nil_append]
  · exact (hreports sampleConfig _ _ _ (hreport ▸ List.mem_singleton_self _)).2.2.2.2.1

end Verifier

end WebhookAuth
