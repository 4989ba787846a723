import WebhookAuth.Gateway.Cgi
import WebhookAuth.Proofs.AsciiText
import WebhookAuth.Proofs.Entries
import WebhookAuth.Proofs.HeaderLookup
import WebhookAuth.Proofs.LowercaseText

/-!
# Headers as variables

A header becomes a variable: its name in capitals, with low lines for hyphens. On the way back the
letter case of the name is lost and nothing else (`headerName?_variableName`). Hence under every
name but those that describe the body a request as parameters says the same as the headers that it
was made of (`firstValue?_of_conveys`).
-/

namespace WebhookAuth

open Text

/-! ### Names -/

/-- A character of the names considered: an ASCII letter, a digit or a hyphen. -/
def isTokenChar (c : Char) : Bool :=
  ('a' ≤ c && c ≤ 'z') || ('A' ≤ c && c ≤ 'Z') || ('0' ≤ c && c ≤ '9') || c = '-'

/-- A name of such characters. -/
def IsToken (name : String) : Prop := ∀ c ∈ name.toList, isTokenChar c = true

/-- The character for a character of a name in its variable. -/
def variableChar (c : Char) : Char := if c = '-' then '_' else c.toUpper

/-- The character for a character of a variable in the name that it carries. -/
def headerChar (c : Char) : Char := if c = '_' then '-' else c

/-- The variable for a header: capitals, with low lines for hyphens, behind `HTTP_`. -/
def variableName (name : String) : String :=
  String.ofList ("HTTP_".toList ++ name.toList.map variableChar)

/-- Is the parameter the variable of a header? -/
def isVariable (name : String) : Bool := "HTTP_".toList.isPrefixOf name.toList

/-- The lowercase names of the headers that describe the body. -/
def bodyNames : List String := ["content-type", "content-length"]

section Names

variable {c : Char} {name : String}

theorem toNat_lt_of_isTokenChar (h : isTokenChar c = true) : c.toNat < 128 := by
  simp only [isTokenChar, Bool.or_eq_true, Bool.and_eq_true, decide_eq_true_eq] at h
  obtain ((⟨-, hlast⟩ | ⟨-, hlast⟩) | ⟨-, hlast⟩) | rfl := h
  · exact toNat_lt_of_le hlast (by decide)
  · exact toNat_lt_of_le hlast (by decide)
  · exact toNat_lt_of_le hlast (by decide)
  · decide

/-- A character of a name comes back from its variable but for its letter case. -/
theorem lowerAscii_of_isTokenChar (h : isTokenChar c = true) :
    (headerChar (variableChar c)).toNat < 128 ∧
      lowerAscii (headerChar (variableChar c)) = lowerAscii c := by
  have hall : ∀ c : Char, c.toNat < 128 → isTokenChar c = true →
      (headerChar (variableChar c)).toNat < 128 ∧
        lowerAscii (headerChar (variableChar c)) = lowerAscii c :=
    forall_ascii (by decide +kernel)
  exact hall c (toNat_lt_of_isTokenChar h) h

theorem lower_of_isToken (h : IsToken name) :
    lower name = String.ofList (name.toList.map lowerAscii) :=
  lower_of_ascii fun c hc => toNat_lt_of_isTokenChar (h c hc)

theorem toList_variableName (name : String) :
    (variableName name).toList = "HTTP_".toList ++ name.toList.map variableChar :=
  String.toList_ofList

theorem isVariable_variableName (name : String) : isVariable (variableName name) = true := by
  rw [isVariable, toList_variableName, List.isPrefixOf_iff_prefix]
  exact List.prefix_append _ _

/-- The variable of a header carries it, with its name in lowercase. -/
theorem headerName?_variableName (h : IsToken name) :
    Cgi.headerName? (variableName name) = some (lower name) := by
  have hback : ∀ c ∈ (name.toList.map variableChar).map headerChar, c.toNat < 128 := by
    rw [List.map_map, List.forall_mem_map]
    exact fun c hc => (lowerAscii_of_isTokenChar (h c hc)).1
  have hname : lower (String.ofList ((name.toList.map variableChar).map headerChar)) =
      lower name := by
    rw [lower_of_ascii (by rwa [String.toList_ofList]), lower_of_isToken h, String.toList_ofList,
      List.map_map, List.map_map]
    congr 1
    exact List.map_congr_left fun c hc => (lowerAscii_of_isTokenChar (h c hc)).2
  have hdrop : (variableName name).toList.drop 5 = name.toList.map variableChar := by
    rw [toList_variableName]
    rfl
  have hvariable : "HTTP_".toList.isPrefixOf (variableName name).toList = true :=
    isVariable_variableName name
  unfold Cgi.headerName?
  rw [if_pos hvariable, hdrop]
  exact congrArg some hname

/-- A parameter that is no variable of a header carries none but those that describe the body. -/
theorem lower_mem_bodyNames {parameter : String} (hvariable : ¬isVariable parameter = true)
    (h : Cgi.headerName? parameter = some name) : lower name ∈ bodyNames := by
  unfold isVariable at hvariable
  unfold Cgi.headerName? at h
  rw [if_neg hvariable] at h
  split_ifs at h
  · cases h
    decide +kernel
  · cases h
    decide +kernel

end Names

/-! ### Fields by their lowercase names -/

/-- The fields under their names in lowercase. -/
def folded (fields : Fields) : Fields := fields.map fun field => (lower field.1, field.2)

section Folded

variable {fields fields' : Fields} {name value : String}

theorem mem_folded : (name, value) ∈ folded fields ↔
    ∃ field ∈ fields, lower field.1 = name ∧ field.2 = value := by
  simp [folded]

theorem mem_folded_of_firstValue? (h : firstValue? fields name = some value) :
    (name, value) ∈ folded fields := by
  obtain ⟨field, hfind, hvalue⟩ := Option.map_eq_some_iff.1 h
  have hname := List.find?_some hfind
  exact mem_folded.2 ⟨field, List.mem_of_find?_eq_some hfind, of_decide_eq_true hname, hvalue⟩

theorem firstValue?_eq_none_iff :
    firstValue? fields name = none ↔ ∀ value, (name, value) ∉ folded fields := by
  rw [firstValue?, Option.map_eq_none_iff, List.find?_eq_none]
  constructor
  · intro h value hmem
    obtain ⟨field, hfield, hname, -⟩ := mem_folded.1 hmem
    exact h field hfield (decide_eq_true hname)
  · intro h field hfield hname
    exact h field.2 (mem_folded.2 ⟨field, hfield, of_decide_eq_true hname, rfl⟩)

/-- Where no name repeats, a field has one value. -/
theorem value_unique (h : (fields.map (·.1)).Nodup) {value value' : String}
    (hvalue : (name, value) ∈ fields) (hvalue' : (name, value') ∈ fields) : value = value' := by
  have hfield := List.inj_on_of_nodup_map h hvalue hvalue' rfl
  exact (Prod.mk.inj hfield).2

/-- A name with one value has it as its first. -/
theorem firstValue?_eq_some_iff_mem
    (h : ∀ v v', (name, v) ∈ folded fields → (name, v') ∈ folded fields → v = v') :
    firstValue? fields name = some value ↔ (name, value) ∈ folded fields := by
  refine ⟨mem_folded_of_firstValue?, fun hmem => ?_⟩
  obtain ⟨first, hfirst⟩ := Option.ne_none_iff_exists'.1 fun hnone =>
    firstValue?_eq_none_iff.1 hnone value hmem
  rw [hfirst, h value first hmem (mem_folded_of_firstValue? hfirst)]

/-- Fields that say the same under a name with one value have the same value there. -/
theorem firstValue?_congr
    (hunique : ∀ v v', (name, v) ∈ folded fields → (name, v') ∈ folded fields → v = v')
    (h : ∀ value, (name, value) ∈ folded fields ↔ (name, value) ∈ folded fields') :
    firstValue? fields name = firstValue? fields' name := by
  refine Option.ext fun value => ?_
  rw [firstValue?_eq_some_iff_mem hunique, h value, firstValue?_eq_some_iff_mem]
  exact fun v v' hv hv' => hunique v v' ((h v).2 hv) ((h v').2 hv')

end Folded

/-! ### Assignments -/

namespace Fields

variable {fields assignments : Fields} {field : String × String} {name value : String}

theorem mem_of_mem_set (h : field ∈ fields.set name value) :
    field = (name, value) ∨ field ∈ fields := by
  induction fields with
  | nil => simpa [set] using h
  | cons first fields ih =>
    rw [set] at h
    split_ifs at h with hname
    · rcases List.mem_cons.1 h with h | h
      · exact .inl h
      · exact .inr (List.mem_cons_of_mem _ h)
    · rcases List.mem_cons.1 h with rfl | h
      · exact .inr List.mem_cons_self
      · exact (ih h).imp_right (List.mem_cons_of_mem _)

theorem isSome_get?_iff : (fields.get? name).isSome ↔ ∃ value, (name, value) ∈ fields := by
  rw [Option.isSome_iff_ne_none, ne_eq, get?_eq_none_iff]
  push Not
  constructor
  · rintro ⟨field, hfield, rfl⟩
    exact ⟨field.2, hfield⟩
  · rintro ⟨value, hfield⟩
    exact ⟨_, hfield, rfl⟩

theorem ofAssignments_append_singleton (assignments : Fields) (field : String × String) :
    ofAssignments (assignments ++ [field]) = (ofAssignments assignments).set field.1 field.2 := by
  unfold ofAssignments
  rw [List.foldl_append]
  rfl

/-- All fields are assigned. -/
theorem mem_of_mem_ofAssignments (h : field ∈ ofAssignments assignments) : field ∈ assignments := by
  -- the last assignment adds its own field at most
  induction assignments using List.reverseRecOn with
  | nil => cases h
  | append_singleton assignments last ih =>
    rw [ofAssignments_append_singleton] at h
    rcases mem_of_mem_set h with rfl | h
    · exact List.mem_append_right _ List.mem_cons_self
    · exact List.mem_append_left _ (ih h)

/-- Every name that is assigned has a value. -/
theorem isSome_get?_ofAssignments (h : (name, value) ∈ assignments) :
    ((ofAssignments assignments).get? name).isSome := by
  induction assignments using List.reverseRecOn with
  | nil => cases h
  | append_singleton assignments last ih =>
    rw [ofAssignments_append_singleton]
    by_cases hlast : name = last.1
    · rw [hlast, get?_set_self]
      rfl
    · rw [get?_set_of_ne _ _ hlast]
      refine ih ((List.mem_append.1 h).resolve_right fun hmem => hlast ?_)
      rw [← List.mem_singleton.1 hmem]

end Fields

/-! ### Variables -/

namespace Cgi.Request

/-- The request conveys the headers: its parameters that are variables are those of the headers that
do not describe the body. -/
def Conveys (r : Request) (fields : Fields) : Prop :=
  ∀ parameter, parameter ∈ r.parameters ∧ isVariable parameter.1 = true ↔
    ∃ field ∈ fields, lower field.1 ∉ bodyNames ∧ parameter = (variableName field.1, field.2)

variable {r : Request} {fields : Fields} {name value : String}

theorem exists_mem_fields {parameter : String × String} (h : parameter ∈ r.parameters)
    (hname : headerName? parameter.1 = some name) : ∃ value, (name, value) ∈ r.fields := by
  have hassigned : (name, parameter.2) ∈
      r.parameters.filterMap fun v => (headerName? v.1).map (·, v.2) :=
    List.mem_filterMap.2 ⟨parameter, h, by rw [hname]; rfl⟩
  exact Fields.isSome_get?_iff.1 (Fields.isSome_get?_ofAssignments hassigned)

theorem exists_parameter (h : (name, value) ∈ r.fields) :
    ∃ parameter ∈ r.parameters, headerName? parameter.1 = some name ∧ parameter.2 = value := by
  obtain ⟨parameter, hmem, hfield⟩ := List.mem_filterMap.1 (Fields.mem_of_mem_ofAssignments h)
  obtain ⟨header, hname, heq⟩ := Option.map_eq_some_iff.1 hfield
  cases heq
  exact ⟨parameter, hmem, hname, rfl⟩

theorem mem_folded_of_conveys (h : r.Conveys fields)
    (htoken : ∀ field ∈ fields, IsToken field.1) (hname : name ∉ bodyNames)
    (hmem : (name, value) ∈ folded r.fields) : (name, value) ∈ folded fields := by
  obtain ⟨⟨header, _⟩, hfield, hheader, rfl⟩ := mem_folded.1 hmem
  obtain ⟨parameter, hparameter, hcarried, rfl⟩ := exists_parameter hfield
  by_cases hvariable : isVariable parameter.1 = true
  · obtain ⟨field, hfrom, -, rfl⟩ := (h parameter).1 ⟨hparameter, hvariable⟩
    rw [headerName?_variableName (htoken field hfrom)] at hcarried
    cases hcarried
    exact mem_folded.2 ⟨field, hfrom, (lower_lower field.1).symm.trans hheader, rfl⟩
  · exact absurd (hheader ▸ lower_mem_bodyNames hvariable hcarried) hname

/-- Under every name but those of the body the parameters say what the headers say. -/
theorem firstValue?_of_conveys (h : r.Conveys fields)
    (htoken : ∀ field ∈ fields, IsToken field.1)
    (hdistinct : ((folded fields).map (·.1)).Nodup) (hname : name ∉ bodyNames) :
    firstValue? r.fields name = firstValue? fields name := by
  symm
  refine firstValue?_congr (fun _ _ => value_unique hdistinct) fun value =>
    ⟨fun hmem => ?_, mem_folded_of_conveys h htoken hname⟩
  obtain ⟨field, hfield, hheader, rfl⟩ := mem_folded.1 hmem
  have hbody : lower field.1 ∉ bodyNames := by rwa [hheader]
  have hvariable := ((h _).2 ⟨field, hfield, hbody, rfl⟩).1
  obtain ⟨value, hvalue⟩ :=
    exists_mem_fields hvariable (headerName?_variableName (htoken field hfield))
  have hfolded : (name, value) ∈ folded r.fields :=
    mem_folded.2 ⟨_, hvalue, (lower_lower field.1).trans hheader, rfl⟩
  -- the parameters have the header with some value, and the headers only with this
  have hsame := value_unique hdistinct (mem_folded_of_conveys h htoken hname hfolded) hmem
  rwa [← hsame]

end Cgi.Request

end WebhookAuth
