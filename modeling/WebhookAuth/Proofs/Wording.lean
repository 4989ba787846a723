import Mathlib.Data.List.TakeWhile
import WebhookAuth.Gateway.Cgi
import WebhookAuth.Gateway.Chunked
import WebhookAuth.Proofs.CanonicalMessage
import WebhookAuth.Proofs.Entries

/-!
# What guards write

A denial is an object in JSON with the reason, and every answer of a guard has a header with the
decision. The two gateways write both in their own ways; what a client reads is the same
(`Guard.Wording.Faithful`, `Cgi.faithful_wording`, `Chunked.faithful_wording`).
-/

namespace WebhookAuth

/-! ### Objects with one member -/

namespace Json

/-- White space between tokens. -/
def isSpace (c : Char) : Bool := c = ' ' || c = '\t' || c = '\n' || c = '\r'

/-- A character that stands for itself in a string. -/
def isPlain (c : Char) : Bool := c ≠ '"' && c ≠ Text.backslash && 32 ≤ c.toNat

/-- The text behind a character that comes first, if it does. -/
def next? (c : Char) : List Char → Option (List Char)
  | [] => none
  | d :: rest => if d = c then some rest else none

/-- The text behind a character that comes first after white space, if it does. -/
def token? (c : Char) (text : List Char) : Option (List Char) := next? c (text.dropWhile isSpace)

/-- A string of plain characters, and the text behind it. -/
def string? (text : List Char) : Option (List Char × List Char) := do
  let rest ← token? '"' text
  let behind ← next? '"' (rest.dropWhile isPlain)
  return (rest.takeWhile isPlain, behind)

/-- The name and the value of the member of an object that has just one, if both are strings of
plain characters. -/
def member? (text : List Char) : Option (List Char × List Char) := do
  let rest ← token? '\x7b' text
  let (name, rest) ← string? rest
  let rest ← token? ':' rest
  let (value, rest) ← string? rest
  let rest ← token? '\x7d' rest
  if rest.all isSpace then some (name, value) else none

variable {c : Char} {name value rest space : List Char}

@[simp] theorem next?_cons_self : next? c (c :: rest) = some rest := if_pos rfl

/-- White space before a token does not count. -/
theorem token?_append (hspace : ∀ d ∈ space, isSpace d = true) (hc : isSpace c = false) :
    token? c (space ++ c :: rest) = some rest := by
  unfold token?
  rw [List.dropWhile_append_of_pos hspace, List.dropWhile_cons_of_neg (by rw [hc]; decide),
    next?_cons_self]

theorem token?_cons (hc : isSpace c = false) : token? c (c :: rest) = some rest := by
  have hempty : ∀ d ∈ ([] : List Char), isSpace d = true := by simp
  exact token?_append hempty hc

/-- A string of plain characters is read up to its quotation mark. -/
theorem string?_append (hspace : ∀ d ∈ space, isSpace d = true)
    (hvalue : ∀ d ∈ value, isPlain d = true) :
    string? (space ++ '"' :: (value ++ '"' :: rest)) = some (value, rest) := by
  have hquote : ¬isPlain '"' = true := by decide
  unfold string?
  rw [token?_append hspace (by decide)]
  simp [List.dropWhile_append_of_pos hvalue, List.takeWhile_append_of_pos hvalue, hquote]

/-- An object with one member of plain strings is read. -/
theorem member?_object (hname : ∀ d ∈ name, isPlain d = true)
    (hvalue : ∀ d ∈ value, isPlain d = true) (hspace : ∀ d ∈ space, isSpace d = true) :
    member? ('\x7b' :: '"' :: (name ++ '"' :: ':' :: (space ++ '"' :: (value ++ ['"', '\x7d'])))) =
      some (name, value) := by
  have hempty : ∀ d ∈ ([] : List Char), isSpace d = true := by simp
  have hfirst :
      string? ('"' :: (name ++ '"' :: ':' :: (space ++ '"' :: (value ++ ['"', '\x7d'])))) =
      some (name, ':' :: (space ++ '"' :: (value ++ ['"', '\x7d']))) :=
    string?_append hempty hname
  have hsecond : string? (space ++ '"' :: (value ++ ['"', '\x7d'])) = some (value, ['\x7d']) :=
    string?_append hspace hvalue
  have hopen : isSpace '\x7b' = false := by decide
  have hcolon : isSpace ':' = false := by decide
  have hclose : isSpace '\x7d' = false := by decide
  unfold member?
  simp only [token?_cons hopen, token?_cons hcolon, token?_cons hclose, hfirst, hsecond,
    Option.bind_eq_bind, Option.bind_some]
  rfl

end Json

/-- The body is an object in JSON whose one member `reason` has the name of this reason. -/
def TellsReason (body : Bytes) (reason : Reason) : Prop :=
  ∃ text, Utf8.encode text = body ∧
    Json.member? text.toList = some ("reason".toList, reason.name.toList)

theorem Reason.name_injective : Function.Injective Reason.name := by
  intro reason reason' h
  have hname := Reason.ofName?_name reason
  rw [h, Reason.ofName?_name reason'] at hname
  exact (Option.some.inj hname).symm

/-- A body tells one reason at most. -/
theorem TellsReason.unique {body : Bytes} {reason reason' : Reason} (h : TellsReason body reason)
    (h' : TellsReason body reason') : reason = reason' := by
  obtain ⟨text, htext, hmember⟩ := h
  obtain ⟨text', htext', hmember'⟩ := h'
  cases Utf8.encode_injective (htext.trans htext'.symm)
  have hnames := (Prod.mk.inj (Option.some.inj (hmember.symm.trans hmember'))).2
  exact Reason.name_injective (String.toList_inj.1 hnames)

/-- The body of a denial tells its reason. -/
theorem tellsReason_denialBody {separator : String}
    (h : ∀ c ∈ separator.toList, Json.isSpace c = true) (reason : Reason) :
    TellsReason (denialBody separator reason) reason := by
  have hname : ∀ c ∈ "reason".toList, Json.isPlain c = true := List.all_eq_true.1 (by decide)
  have hvalue : ∀ c ∈ reason.name.toList, Json.isPlain c = true := by
    rw [← List.all_eq_true]
    cases reason <;> decide
  refine ⟨_, rfl, ?_⟩
  rw [← Json.member?_object hname hvalue h]
  simp

/-! ### Decisions -/

/-- Does a field tell a decision, in whatever letter case its name is written? -/
def isDecision (field : String × String) : Bool := Text.lower field.1 = Text.lower decisionHeader

/-- The decisions that fields tell. -/
def decisions (fields : Fields) : List String := (fields.filter isDecision).map (·.2)

/-- The fields that tell no decision. -/
def otherFields (fields : Fields) : Fields := fields.filter (!isDecision ·)

/-- A denial is told as such, with its reason; a mark adds its decision to the fields, the only one
if the application has told none, and leaves all other fields. -/
structure Guard.Wording.Faithful (w : Guard.Wording) : Prop where
  status_denial : ∀ reason, (w.denial reason).status = .unauthorized
  tellsReason_denial : ∀ reason, TellsReason (w.denial reason).body reason
  decisions_denial : ∀ reason, decisions (w.denial reason).fields = [Decision.deny.name]
  mem_decisions_mark : ∀ decision fields, decision.name ∈ decisions (w.mark decision fields)
  decisions_mark : ∀ decision fields, decisions fields = [] →
    decisions (w.mark decision fields) = [decision.name]
  otherFields_mark : ∀ decision fields, otherFields (w.mark decision fields) = otherFields fields

@[simp] theorem decisions_append (fields more : Fields) :
    decisions (fields ++ more) = decisions fields ++ decisions more := by
  simp [decisions]

@[simp] theorem otherFields_append (fields more : Fields) :
    otherFields (fields ++ more) = otherFields fields ++ otherFields more := by
  simp [otherFields]

theorem decisions_cons (name value : String) (fields : Fields) :
    decisions ((name, value) :: fields) =
      if Text.lower name = Text.lower decisionHeader then value :: decisions fields
      else decisions fields := by
  unfold decisions isDecision
  split_ifs with h <;> simp [h]

theorem otherFields_cons (name value : String) (fields : Fields) :
    otherFields ((name, value) :: fields) =
      if Text.lower name = Text.lower decisionHeader then otherFields fields
      else (name, value) :: otherFields fields := by
  unfold otherFields isDecision
  split_ifs with h <;> simp [h]

theorem decisions_nil : decisions [] = [] := rfl

theorem decisions_filter {fields : Fields} (p : String × String → Bool)
    (h : decisions fields = []) :
    decisions (fields.filter p) = [] := by
  unfold decisions at h ⊢
  rw [List.map_eq_nil_iff, List.filter_eq_nil_iff] at h ⊢
  exact fun field hfield => h field (List.mem_of_mem_filter hfield)

/-- A mark behind all fields. -/
theorem Cgi.faithful_wording : Cgi.wording.Faithful := by
  have hnames : Text.lower "Content-Type" ≠ Text.lower decisionHeader ∧
      Text.lower "Content-Length" ≠ Text.lower decisionHeader := by
    decide +kernel
  have hmark (value : String) : decisions [(decisionHeader, value)] = [value] := by
    rw [decisions_cons, if_pos rfl, decisions_nil]
  refine ⟨fun _ => rfl, tellsReason_denialBody (List.all_eq_true.1 (by decide)), fun reason => ?_,
    fun decision fields => ?_, fun decision fields h => ?_, fun decision fields => ?_⟩
  · show decisions [("Content-Type", _), ("Content-Length", _), (decisionHeader, _)] = _
    rw [decisions_cons, if_neg hnames.1, decisions_cons, if_neg hnames.2, hmark]
  · show _ ∈ decisions (fields ++ [(decisionHeader, decision.name)])
    rw [decisions_append, hmark]
    exact List.mem_append_right _ List.mem_cons_self
  · show decisions (fields ++ [(decisionHeader, decision.name)]) = _
    rw [decisions_append, hmark, h, List.nil_append]
  · show otherFields (fields ++ [(decisionHeader, decision.name)]) = _
    rw [otherFields_append, otherFields_cons, if_pos rfl]
    exact List.append_nil _

namespace Chunked

variable {fields : Fields}

/-- A mark stands for all fields of its name, and the others stay. -/
theorem exists_mark_eq (a : Assignment) (decision : Decision) (fields : Fields) :
    ∃ front behind, fields.filter (·.1 != fieldName) = front ++ behind ∧
      (wording a).mark decision fields = front ++ (fieldName, decision.name) :: behind :=
  a.assign_eq fields decisionHeader decision.name

theorem lower_fieldName : Text.lower fieldName = Text.lower decisionHeader := by decide +kernel

theorem isDecision_of_named {field : String × String} (h : field.1 = fieldName) :
    isDecision field = true :=
  decide_eq_true (h ▸ lower_fieldName)

theorem otherFields_filter :
    otherFields (fields.filter (·.1 != fieldName)) = otherFields fields := by
  unfold otherFields
  rw [List.filter_filter]
  refine List.filter_congr fun field _ => ?_
  by_cases hname : field.1 = fieldName
  · rw [isDecision_of_named hname]
    rfl
  · rw [bne_iff_ne.2 hname, Bool.and_true]

/-- A mark in the place of the application's own. -/
theorem faithful_wording (a : Assignment) : (wording a).Faithful := by
  have hnames : Text.lower "content-length" ≠ Text.lower decisionHeader ∧
      Text.lower "content-type" ≠ Text.lower decisionHeader := by
    decide +kernel
  refine ⟨fun _ => rfl, tellsReason_denialBody (List.all_eq_true.1 (by decide)), fun reason => ?_,
    fun decision fields => ?_, fun decision fields h => ?_, fun decision fields => ?_⟩
  · show decisions [(fieldName, _), ("content-length", _), ("content-type", _)] = _
    rw [decisions_cons, if_pos lower_fieldName, decisions_cons, if_neg hnames.1, decisions_cons,
      if_neg hnames.2, decisions_nil]
  · obtain ⟨front, behind, -, hmark⟩ := exists_mark_eq a decision fields
    rw [hmark, decisions_append, decisions_cons, if_pos lower_fieldName]
    exact List.mem_append_right _ List.mem_cons_self
  · obtain ⟨front, behind, hstay, hmark⟩ := exists_mark_eq a decision fields
    have hnone : decisions (fields.filter (·.1 != fieldName)) = [] := decisions_filter _ h
    rw [hstay, decisions_append, List.append_eq_nil_iff] at hnone
    rw [hmark, decisions_append, decisions_cons, if_pos lower_fieldName, hnone.1, hnone.2]
    rfl
  · obtain ⟨front, behind, hstay, hmark⟩ := exists_mark_eq a decision fields
    rw [hmark, otherFields_append, otherFields_cons, if_pos lower_fieldName, ← otherFields_append,
      ← hstay, otherFields_filter]

end Chunked

end WebhookAuth
