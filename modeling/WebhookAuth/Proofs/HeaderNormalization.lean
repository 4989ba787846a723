import WebhookAuth.Proofs.HeaderVariables

/-!
# Normalization

Normal fields have names in lowercase, each once. Normalization puts the names of a bag in the
order in which they first come (`pairwise_firstPlace_normalize`), each with its first value
(`mem_normalize_iff`), and leaves just the normal fields as they are (`normalize_eq_self_iff`). The
fields that a request as parameters carries are normal (`Cgi.Request.normalize_fields`).
-/

namespace WebhookAuth

variable {fields : Fields} {field : String × String} {name value : String}

/-! ### Values by name -/

namespace Fields

theorem mem_of_get?_eq_some (h : fields.get? name = some value) : (name, value) ∈ fields := by
  obtain ⟨before, after, rfl, -⟩ := List.lookup_eq_some_iff.1 h
  exact List.mem_append_right _ List.mem_cons_self

/-- Where no name repeats, the fields are told by the values of the names. -/
theorem get?_eq_some_iff_mem (h : (fields.map (·.1)).Nodup) :
    fields.get? name = some value ↔ (name, value) ∈ fields := by
  refine ⟨mem_of_get?_eq_some, fun hmem => ?_⟩
  obtain ⟨first, hfirst⟩ := Option.isSome_iff_exists.1 (isSome_get?_iff.2 ⟨value, hmem⟩)
  rw [hfirst, value_unique h hmem (mem_of_get?_eq_some hfirst)]

theorem nodup_set (h : (fields.map (·.1)).Nodup) (name value : String) :
    ((fields.set name value).map (·.1)).Nodup := by
  induction fields with
  | nil => exact List.nodup_singleton name
  | cons first fields ih =>
    obtain ⟨n, v⟩ := first
    obtain ⟨hfirst, hfields⟩ := List.nodup_cons.1 h
    rw [set]
    split_ifs with hname
    · subst hname
      exact List.nodup_cons.2 ⟨hfirst, hfields⟩
    · refine List.nodup_cons.2 ⟨fun hmem => ?_, ih hfields⟩
      obtain ⟨field, hfield, heq⟩ := List.mem_map.1 hmem
      rcases mem_of_mem_set hfield with rfl | hfield
      · exact hname heq.symm
      · exact hfirst (List.mem_map.2 ⟨field, hfield, heq⟩)

/-- Assignments give each name one value. -/
theorem nodup_ofAssignments (assignments : Fields) :
    ((ofAssignments assignments).map (·.1)).Nodup := by
  induction assignments using List.reverseRecOn with
  | nil => exact List.nodup_nil
  | append_singleton assignments last ih =>
    rw [ofAssignments_append_singleton]
    exact nodup_set ih last.1 last.2

end Fields

/-! ### Names in the order in which they first come -/

theorem normalize_append_singleton (fields : Fields) (field : String × String) :
    normalize (fields ++ [field]) =
      (normalize fields).setIfAbsent (Text.lower field.1) field.2 := by
  unfold normalize
  rw [List.foldl_append]
  rfl

/-- The place of the first field with a lowercase name, in whatever letter case it is written. -/
def firstPlace (fields : Fields) (name : String) : ℕ :=
  fields.findIdx fun field => Text.lower field.1 = name

theorem firstPlace_lt_length_of_mem (h : field ∈ normalize fields) :
    firstPlace fields field.1 < fields.length := by
  have hthere : ((normalize fields).get? field.1).isSome :=
    Fields.isSome_get?_iff.2 ⟨field.2, h⟩
  rw [get?_normalize, firstValue?, Option.isSome_map, List.find?_isSome] at hthere
  exact List.findIdx_lt_length.2 hthere

/-- A field behind the others does not change where a name first comes. -/
theorem firstPlace_append_of_lt (h : firstPlace fields name < fields.length) :
    firstPlace (fields ++ [field]) name = firstPlace fields name := by
  rw [firstPlace, List.findIdx_append]
  exact if_pos h

/-- A name that the fields do not have comes behind them. -/
theorem length_le_firstPlace_append (h : firstValue? fields name = none) :
    fields.length ≤ firstPlace (fields ++ [field]) name := by
  have hplace : ¬fields.findIdx (fun field => Text.lower field.1 = name) < fields.length := by
    rw [List.findIdx_lt_length, ← List.find?_isSome, Option.not_isSome_iff_eq_none]
    exact Option.map_eq_none_iff.1 h
  rw [firstPlace, List.findIdx_append, if_neg hplace]
  exact Nat.le_add_left _ _

/-- The names come in the order in which the bag first has them. -/
theorem pairwise_firstPlace_normalize (fields : Fields) :
    (normalize fields).Pairwise fun field field' =>
      firstPlace fields field.1 < firstPlace fields field'.1 := by
  -- the last field of the bag keeps the places of the others
  induction fields using List.reverseRecOn with
  | nil => exact List.Pairwise.nil
  | append_singleton fields last ih =>
    have hplace : ∀ field ∈ normalize fields,
        firstPlace (fields ++ [last]) field.1 = firstPlace fields field.1 := fun field hfield =>
      firstPlace_append_of_lt (firstPlace_lt_length_of_mem hfield)
    have hkept : (normalize fields).Pairwise fun field field' =>
        firstPlace (fields ++ [last]) field.1 < firstPlace (fields ++ [last]) field'.1 :=
      ih.imp_of_mem fun hfield hfield' h => by rwa [hplace _ hfield, hplace _ hfield']
    rw [normalize_append_singleton, Fields.setIfAbsent]
    split_ifs with hthere
    · exact hkept
    · have hnew : firstValue? fields (Text.lower last.1) = none := by
        rw [← get?_normalize]
        exact Option.not_isSome_iff_eq_none.1 hthere
      refine List.pairwise_append.2
        ⟨hkept, List.pairwise_singleton _ _, fun field hfield new hlast => ?_⟩
      rw [List.mem_singleton.1 hlast]
      calc firstPlace (fields ++ [last]) field.1
          = firstPlace fields field.1 := hplace field hfield
        _ < fields.length := firstPlace_lt_length_of_mem hfield
        _ ≤ firstPlace (fields ++ [last]) (Text.lower last.1) := length_le_firstPlace_append hnew

theorem nodup_normalize (fields : Fields) : ((normalize fields).map (·.1)).Nodup := by
  refine List.pairwise_map.2 ((pairwise_firstPlace_normalize fields).imp fun hlt heq => ?_)
  rw [heq] at hlt
  exact lt_irrefl _ hlt

/-- Every name has the value of the first field that is written with it in some letter case. -/
theorem mem_normalize_iff :
    (name, value) ∈ normalize fields ↔ firstValue? fields name = some value := by
  rw [← Fields.get?_eq_some_iff_mem (nodup_normalize fields), get?_normalize]

/-! ### Normal fields -/

theorem lower_of_mem_normalize (h : field ∈ normalize fields) : Text.lower field.1 = field.1 := by
  obtain ⟨written, -, hname, -⟩ := mem_folded.1 (mem_folded_of_firstValue? (mem_normalize_iff.1 h))
  rw [← hname, Text.lower_lower]

/-- Names that are put in lowercase before make no difference. -/
theorem normalize_folded (fields : Fields) : normalize (folded fields) = normalize fields := by
  unfold normalize folded
  rw [List.foldl_map]
  simp only [Text.lower_lower]

/-- Normalization leaves just the fields as they are that have their names in lowercase, each
once. -/
theorem normalize_eq_self_iff :
    normalize fields = fields ↔
      (fields.map (·.1)).Nodup ∧ ∀ field ∈ fields, Text.lower field.1 = field.1 := by
  constructor
  · intro h
    rw [← h]
    exact ⟨nodup_normalize fields, fun field => lower_of_mem_normalize⟩
  · rintro ⟨hdistinct, hlower⟩
    induction fields using List.reverseRecOn with
    | nil => rfl
    | append_singleton fields last ih =>
      rw [List.map_append, List.nodup_append] at hdistinct
      rw [List.forall_mem_append] at hlower
      have hnew : Fields.get? fields last.1 = none := Fields.get?_eq_none_iff.2 fun field hfield =>
        hdistinct.2.2 field.1 (List.mem_map_of_mem hfield) last.1 (List.mem_singleton.2 rfl)
      rw [normalize_append_singleton, ih hdistinct.1 hlower.1,
        hlower.2 last (List.mem_singleton.2 rfl), Fields.setIfAbsent, if_neg]
      rw [← Fields.get?, hnew]
      exact Bool.false_ne_true

namespace Cgi

theorem lower_of_headerName? {parameter : String} (h : headerName? parameter = some name) :
    Text.lower name = name := by
  unfold headerName? at h
  split_ifs at h
  · rw [← Option.some.inj h, Text.lower_lower]
  · rw [← Option.some.inj h]
    decide +kernel
  · rw [← Option.some.inj h]
    decide +kernel

/-- The fields that a request as parameters carries are normal. -/
theorem Request.normalize_fields (r : Request) : normalize r.fields = r.fields := by
  refine normalize_eq_self_iff.2 ⟨Fields.nodup_ofAssignments _, fun field hfield => ?_⟩
  obtain ⟨parameter, -, hname, -⟩ := exists_parameter hfield
  exact lower_of_headerName? hname

end Cgi

/-- Normalization is a projection. The names that it gives are distinct, each is its own lowercase
form, and they come in the order in which the bag first has them, each with the value of the first
field whose name has this lowercase form. To normalize once more changes nothing, and neither does
it matter whether the names were put in lowercase before; so the fields of a request as parameters,
whose names are in lowercase already, stay as they are. -/
theorem normalize_projects (fields : Fields) :
    ((normalize fields).map (·.1)).Nodup ∧
      (∀ field ∈ normalize fields, Text.lower field.1 = field.1) ∧
      ((normalize fields).Pairwise fun field field' =>
        firstPlace fields field.1 < firstPlace fields field'.1) ∧
      (∀ name value, (name, value) ∈ normalize fields ↔ firstValue? fields name = some value) ∧
      normalize (normalize fields) = normalize fields ∧
      normalize (folded fields) = normalize fields ∧
      ∀ r : Cgi.Request, normalize r.fields = r.fields := by
  have hlower : ∀ field ∈ normalize fields, Text.lower field.1 = field.1 :=
    fun field => lower_of_mem_normalize
  refine ⟨nodup_normalize fields, hlower, pairwise_firstPlace_normalize fields,
    fun name value => mem_normalize_iff, ?_, normalize_folded fields, Cgi.Request.normalize_fields⟩
  exact normalize_eq_self_iff.2 ⟨nodup_normalize fields, hlower⟩

/-- A final sigma, the Kelvin sign and a dotted capital I, with two names written twice. -/
example : normalize [("\u039f\u03a3", "1"), ("X-\u212aEY", "2"), ("\u03bf\u03c2", "3"),
    ("\u0130", "4"), ("x-key", "5")] =
      [("\u03bf\u03c2", "1"), ("x-key", "2"), ("i\u0307", "4")] := by
  decide +kernel

end WebhookAuth
