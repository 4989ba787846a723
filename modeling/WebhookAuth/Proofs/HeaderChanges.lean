import WebhookAuth.Proofs.HeaderVariables
import WebhookAuth.Proofs.SignedDelivery

/-!
# Changes to a bag that leave the delivery as it is

What a header says depends on which values stand under the names of its role, and where every name
has one value at most, on nothing else (`header?_eq_some_iff_mem`). So the fields may be put in any
order, their names written in any letter case, fields that are not looked for be added and removed,
and the only header of a role renamed within the role (`Fields.Rewords`): any number of such changes
leaves the delivery as it is (`Delivery.ofFields_rewords`).
-/

namespace WebhookAuth

namespace HeaderNames

/-- The other names of the header with a role, as they are given. -/
def aliases (names : HeaderNames) : Role → List String
  | .timestamp => names.timestampAliases
  | .signature => names.signatureAliases
  | .nonce => names.nonceAliases

/-- Where no name is looked for in two roles, each role has its own aliases. -/
theorem Separate.lookupOrder_eq {names : HeaderNames} (h : names.Separate) (role : Role) :
    names.lookupOrder role = (names.canonical role :: names.aliases role).map Text.lower := by
  have haliases : names.aliases? (names.canonical role) = some (names.aliases role) := by
    unfold aliases?
    cases role with
    | nonce => exact if_pos rfl
    | signature =>
      have hnonce : names.canonical .signature ≠ names.nonce :=
        (h.canonical_ne (by decide) : _ ≠ names.canonical .nonce)
      rw [if_neg hnonce]
      exact if_pos rfl
    | timestamp =>
      have hnonce : names.canonical .timestamp ≠ names.nonce :=
        (h.canonical_ne (by decide) : _ ≠ names.canonical .nonce)
      have hsignature : names.canonical .timestamp ≠ names.signature :=
        (h.canonical_ne (by decide) : _ ≠ names.canonical .signature)
      rw [if_neg hnonce, if_neg hsignature]
      exact if_pos rfl
  rw [lookupOrder, lookupOrder?, haliases]
  rfl

end HeaderNames

/-- The literal value of the header with a role. -/
def Delivery.value? (d : Delivery) : Role → Option String
  | .timestamp => d.timestamp
  | .signature => d.signature
  | .nonce => d.nonce

theorem Delivery.value?_ofFields (names : HeaderNames) (body : Bytes) (fields : Fields)
    (role : Role) :
    (Delivery.ofFields names body fields).value? role = header? names fields role := by
  rw [Delivery.ofFields_eq]
  cases role <;> rfl

namespace Fields

variable {names : HeaderNames} {fields fields' before after : Fields} {role : Role}
  {name name' value : String}

/-! ### What a bag says -/

/-- The name, in whatever letter case, has the value. -/
def Says (fields : Fields) (name value : String) : Prop :=
  ∃ field ∈ fields, Text.lower field.1 = Text.lower name ∧ field.2 = value

theorem mem_folded_iff_says : (Text.lower name, value) ∈ folded fields ↔ fields.Says name value :=
  mem_folded

/-- Every name of the role has one value at most. -/
def Definite (fields : Fields) (names : HeaderNames) (role : Role) : Prop :=
  ∀ name ∈ names.lookupOrder role, ∀ value value', (name, value) ∈ folded fields →
    (name, value') ∈ folded fields → value = value'

theorem definite_of_nodup (h : ((folded fields).map (·.1)).Nodup) : fields.Definite names role :=
  fun _ _ _ _ => value_unique h

/-- The bags have the same values under the names of the role. -/
def Agree (fields fields' : Fields) (names : HeaderNames) (role : Role) : Prop :=
  ∀ name ∈ names.lookupOrder role, ∀ value,
    (name, value) ∈ folded fields ↔ (name, value) ∈ folded fields'

/-- The header with the role is there under one of its names only, with the value. -/
def Only (fields : Fields) (names : HeaderNames) (role : Role) (value : String) : Prop :=
  ∃ name ∈ names.lookupOrder role, ∀ name' ∈ names.lookupOrder role, ∀ value',
    (name', value') ∈ folded fields ↔ name' = name ∧ value' = value

theorem Definite.of_agree (h : fields.Definite names role)
    (hagree : Agree fields fields' names role) : fields'.Definite names role := by
  intro name hname value value' hvalue hvalue'
  exact h name hname value value' ((hagree name hname value).2 hvalue)
    ((hagree name hname value').2 hvalue')

theorem Only.definite (h : fields.Only names role value) : fields.Definite names role := by
  obtain ⟨name, -, honly⟩ := h
  intro name' hname' v v' hv hv'
  rw [((honly name' hname' v).1 hv).2, ((honly name' hname' v').1 hv').2]

/-- The value of a header told by the values under its names, whatever their order. -/
theorem header?_eq_some_iff_mem (h : fields.Definite names role) :
    header? names fields role = some value ↔
      ∃ before name after, names.lookupOrder role = before ++ name :: after ∧
        (name, value) ∈ folded fields ∧ Text.isBlankText value = false ∧
        ∀ earlier ∈ before, ∀ v, (earlier, v) ∈ folded fields → Text.isBlankText v = true := by
  rw [header?_eq_some_iff]
  refine exists_congr fun before => exists_congr fun name => exists_congr fun after =>
    and_congr_right fun horder => ?_
  have hname : name ∈ names.lookupOrder role := by simp [horder]
  have hbefore : ∀ earlier ∈ before, earlier ∈ names.lookupOrder role := fun earlier hearlier => by
    simp [horder, hearlier]
  rw [firstValue?_eq_some_iff_mem (h name hname)]
  refine and_congr_right fun _ => and_congr_right fun _ => ?_
  refine forall_congr' fun earlier => forall_congr' fun hearlier => forall_congr' fun v => ?_
  rw [Option.mem_def, firstValue?_eq_some_iff_mem (h earlier (hbefore earlier hearlier))]

theorem Agree.header?_eq (hagree : Agree fields fields' names role)
    (h : fields.Definite names role) :
    header? names fields role = header? names fields' role :=
  header?_congr fun name hname => firstValue?_congr (h name hname) (hagree name hname)

/-- The only header of a role has its value, under whichever name it stands. -/
theorem Only.header?_eq (h : fields.Only names role value) :
    header? names fields role = if Text.isBlankText value = true then none else some value := by
  obtain ⟨name, hname, honly⟩ := h
  have hdefinite : fields.Definite names role := Only.definite ⟨name, hname, honly⟩
  have hvalue : firstValue? fields name = some value :=
    (firstValue?_eq_some_iff_mem (hdefinite name hname)).2 ((honly name hname value).2 ⟨rfl, rfl⟩)
  split_ifs with hblank
  · refine header?_eq_none_iff.2 fun name' hname' v hv => ?_
    rw [((honly name' hname' v).1 (mem_folded_of_firstValue? hv)).2]
    exact hblank
  · -- all its names but this one are without a value
    cases hheader : header? names fields role with
    | none => exact absurd (header?_eq_none_iff.1 hheader name hname value hvalue) hblank
    | some v =>
      obtain ⟨before, name', after, horder, hv, -⟩ := header?_eq_some_iff.1 hheader
      have hname' : name' ∈ names.lookupOrder role := by simp [horder]
      rw [((honly name' hname' v).1 (mem_folded_of_firstValue? hv)).2]

/-! ### Changes -/

/-- A change to a bag of header fields: another order, another letter case of a name, a field more
or less that is not looked for, or another name of the same role for the only header of it. -/
inductive Rewords (names : HeaderNames) : Fields → Fields → Prop where
  | reorder {fields fields' : Fields} (h : fields.Perm fields') : Rewords names fields fields'
  | recase (before after : Fields) (value : String) {name name' : String}
      (h : Text.lower name' = Text.lower name) :
      Rewords names (before ++ (name, value) :: after) (before ++ (name', value) :: after)
  | add (before after : Fields) (name value : String)
      (h : ∀ role, Text.lower name ∉ names.lookupOrder role) :
      Rewords names (before ++ after) (before ++ (name, value) :: after)
  | remove (before after : Fields) (name value : String)
      (h : ∀ role, Text.lower name ∉ names.lookupOrder role) :
      Rewords names (before ++ (name, value) :: after) (before ++ after)
  | rename (before after : Fields) (value : String) (role : Role) {name name' : String}
      (hname : Text.lower name ∈ names.lookupOrder role)
      (hname' : Text.lower name' ∈ names.lookupOrder role)
      (honly : ∀ field ∈ before ++ after, Text.lower field.1 ∉ names.lookupOrder role) :
      Rewords names (before ++ (name, value) :: after) (before ++ (name', value) :: after)

/-- A field in the middle of a bag. -/
theorem mem_folded_insert {v : String} :
    (name', v) ∈ folded (before ++ (name, value) :: after) ↔
      name' = Text.lower name ∧ v = value ∨ (name', v) ∈ folded (before ++ after) := by
  simp only [folded, List.map_append, List.map_cons, List.mem_append, List.mem_cons, Prod.mk.injEq]
  tauto

/-- A field that is not looked for in a role does not matter for it. -/
theorem agree_insert (h : Text.lower name ∉ names.lookupOrder role) :
    Agree (before ++ after) (before ++ (name, value) :: after) names role := by
  intro name' hname' v
  rw [mem_folded_insert, or_iff_right]
  rintro ⟨rfl, -⟩
  exact h hname'

theorem Agree.symm (h : Agree fields fields' names role) : Agree fields' fields names role :=
  fun name hname value => (h name hname value).symm

theorem Agree.trans {fields'' : Fields} (h : Agree fields fields' names role)
    (h' : Agree fields' fields'' names role) : Agree fields fields'' names role :=
  fun name hname value => (h name hname value).trans (h' name hname value)

theorem only_insert (hname : Text.lower name ∈ names.lookupOrder role)
    (honly : ∀ field ∈ before ++ after, Text.lower field.1 ∉ names.lookupOrder role) :
    Only (before ++ (name, value) :: after) names role value := by
  refine ⟨Text.lower name, hname, fun name' hname' v => ?_⟩
  rw [mem_folded_insert, or_iff_left]
  intro hmem
  obtain ⟨field, hfield, rfl, -⟩ := mem_folded.1 hmem
  exact honly field hfield hname'

/-- For each role, a change leaves the values under its names as they are, or keeps the value of its
only header. -/
theorem Rewords.agree_or_only (hnames : names.Separate) (h : Rewords names fields fields')
    (role : Role) :
    Agree fields fields' names role ∨
      ∃ value, fields.Only names role value ∧ fields'.Only names role value := by
  cases h with
  | reorder hperm => exact .inl fun name _ value => (hperm.map _).mem_iff
  | recase before after value hname =>
    refine .inl fun name'' _ v => ?_
    rw [mem_folded_insert, mem_folded_insert, hname]
  | add before after name value hname => exact .inl (agree_insert (hname role))
  | remove before after name value hname => exact .inl (agree_insert (hname role)).symm
  | rename before after value own hname hname' honly =>
    -- neither name is looked for in the other roles
    by_cases hrole : own = role
    · subst hrole
      exact .inr ⟨value, only_insert hname honly, only_insert hname' honly⟩
    · exact .inl ((agree_insert (hnames own role hrole _ hname)).symm.trans
        (agree_insert (hnames own role hrole _ hname')))

/-- What a change preserves. -/
theorem Rewords.preserves (hnames : names.Separate) (h : Rewords names fields fields')
    (hdefinite : fields.Definite names role) :
    fields'.Definite names role ∧ header? names fields' role = header? names fields role := by
  rcases h.agree_or_only hnames role with hagree | ⟨value, honly, honly'⟩
  · exact ⟨hdefinite.of_agree hagree, (hagree.header?_eq hdefinite).symm⟩
  · exact ⟨honly'.definite, by rw [honly'.header?_eq, honly.header?_eq]⟩

/-- What any number of changes preserves. -/
theorem preserves_of_rewords (hnames : names.Separate)
    (h : Relation.ReflTransGen (Rewords names) fields fields')
    (hdefinite : fields.Definite names role) :
    fields'.Definite names role ∧ header? names fields' role = header? names fields role := by
  induction h with
  | refl => exact ⟨hdefinite, rfl⟩
  | tail _ hstep ih =>
    obtain ⟨hdefinite', hheader⟩ := ih
    obtain ⟨hdefinite'', hheader'⟩ := hstep.preserves hnames hdefinite'
    exact ⟨hdefinite'', hheader'.trans hheader⟩

end Fields

namespace Delivery

variable {names : HeaderNames} {fields : Fields}

/-- A delivery has the literal values of the first names that have a value which is not blank: of
the canonical name of a role, or of the first such alias. -/
theorem value?_ofFields_eq_some_iff (hnames : names.Separate)
    (hdistinct : ((folded fields).map (·.1)).Nodup) (body : Bytes) (role : Role) (value : String) :
    (ofFields names body fields).value? role = some value ↔
      ∃ before name after, names.canonical role :: names.aliases role = before ++ name :: after ∧
        fields.Says name value ∧ Text.isBlankText value = false ∧
        ∀ earlier ∈ before, ∀ v, fields.Says earlier v → Text.isBlankText v = true := by
  rw [value?_ofFields, Fields.header?_eq_some_iff_mem (Fields.definite_of_nodup hdistinct),
    hnames.lookupOrder_eq]
  constructor
  · rintro ⟨before, name, after, horder, hvalue, hblank, hbefore⟩
    obtain ⟨before, rest, horder', rfl, hrest⟩ := List.map_eq_append_iff.1 horder
    obtain ⟨name, after, rfl, rfl, rfl⟩ := List.map_eq_cons_iff.1 hrest
    refine ⟨before, name, after, horder', Fields.mem_folded_iff_says.1 hvalue, hblank, ?_⟩
    intro earlier hearlier v hv
    exact hbefore _ (List.mem_map_of_mem hearlier) v (Fields.mem_folded_iff_says.2 hv)
  · rintro ⟨before, name, after, horder, hvalue, hblank, hbefore⟩
    refine ⟨before.map Text.lower, Text.lower name, after.map Text.lower, ?_,
      Fields.mem_folded_iff_says.2 hvalue, hblank, ?_⟩
    · rw [horder, List.map_append, List.map_cons]
    · rw [List.forall_mem_map]
      intro earlier hearlier v hv
      exact hbefore earlier hearlier v (Fields.mem_folded_iff_says.1 hv)

/-- Where no name is looked for in two roles and the fields have names that differ in more than
letter case, no number of changes to the fields changes the delivery: not another order, nor another
letter case, nor fields that are not looked for, nor another name of its role for the only header of
it. And each of its headers has the literal value of the first name, of the canonical one and the
aliases in their order, that is there with a value which is not blank. -/
theorem ofFields_rewords (hnames : names.Separate)
    (hdistinct : ((folded fields).map (·.1)).Nodup) (body : Bytes) :
    (∀ fields', Relation.ReflTransGen (Fields.Rewords names) fields fields' →
        ofFields names body fields' = ofFields names body fields) ∧
      ∀ (role : Role) (value : String), (ofFields names body fields).value? role = some value ↔
        ∃ before name after, names.canonical role :: names.aliases role = before ++ name :: after ∧
          fields.Says name value ∧ Text.isBlankText value = false ∧
          ∀ earlier ∈ before, ∀ v, fields.Says earlier v → Text.isBlankText v = true := by
  refine ⟨fun fields' h => ?_, value?_ofFields_eq_some_iff hnames hdistinct body⟩
  rw [ofFields_eq_iff]
  exact fun role => (Fields.preserves_of_rewords hnames h (Fields.definite_of_nodup hdistinct)).2

/-- Names with an alias for the nonce in which a letter has two capitals. -/
def sampleKeyNames : HeaderNames := { nonceAliases := ["X-Key"] }

/-- A blank nonce, the nonce under its alias, and a timestamp with blank space around. -/
def sampleBag : Fields :=
  [("Host", "h"), ("X-Swish-Timestamp", " 300 "), ("X-Swish-Nonce", "\t"), ("X-Key", "n")]

/-- The same with the alias in other letters, among them the Kelvin sign, and the timestamp under
its alias. -/
def sampleReworded : Fields :=
  [("Accept", "*"), ("x-\u212Aey", "n"), ("X-Swish-Nonce", "\t"), ("X-TIMESTAMP", " 300 "),
    ("Host", "h")]

theorem separate_sampleKeyNames : sampleKeyNames.Separate := by
  intro role role' hrole
  cases role <;> cases role' <;> first | exact absurd rfl hrole | decide +kernel

theorem rewords_sampleBag :
    Relation.ReflTransGen (Fields.Rewords sampleKeyNames) sampleBag sampleReworded := by
  have hreorder : Fields.Rewords sampleKeyNames sampleBag sampleBag.reverse :=
    .reorder (List.reverse_perm sampleBag).symm
  have hrecase : Fields.Rewords sampleKeyNames sampleBag.reverse
      (("x-\u212Aey", "n") :: sampleBag.reverse.tail) :=
    .recase [] sampleBag.reverse.tail "n" (by decide +kernel)
  have hrename : Fields.Rewords sampleKeyNames (("x-\u212Aey", "n") :: sampleBag.reverse.tail)
      sampleReworded.tail :=
    .rename [("x-\u212Aey", "n"), ("X-Swish-Nonce", "\t")] [("Host", "h")] " 300 " .timestamp
      (by decide +kernel) (by decide +kernel) (by decide +kernel)
  have hadd : Fields.Rewords sampleKeyNames sampleReworded.tail sampleReworded :=
    .add [] sampleReworded.tail "Accept" "*" (by intro role; cases role <;> decide +kernel)
  exact (((Relation.ReflTransGen.single hreorder).tail hrecase).tail hrename).tail hadd

/-- The nonce stands under its alias, and the timestamp keeps its blank space. -/
theorem ofFields_rewords_samples :
    sampleKeyNames.Separate ∧ ((folded sampleBag).map (·.1)).Nodup ∧
      ofFields sampleKeyNames [120] sampleReworded = ofFields sampleKeyNames [120] sampleBag ∧
      (ofFields sampleKeyNames [120] sampleBag).value? .nonce = some "n" ∧
      (ofFields sampleKeyNames [120] sampleBag).value? .timestamp = some " 300 " ∧
      (ofFields sampleKeyNames [120] sampleBag).value? .signature = none := by
  have hdistinct : ((folded sampleBag).map (·.1)).Nodup := by decide +kernel
  obtain ⟨hsame, hvalue⟩ := ofFields_rewords separate_sampleKeyNames hdistinct [120]
  refine ⟨separate_sampleKeyNames, hdistinct, hsame _ rewords_sampleBag, (hvalue _ _).2 ?_,
    (hvalue _ _).2 ?_, by decide +kernel⟩
  · refine ⟨["X-Swish-Nonce"], "X-Key", [], rfl, ⟨("X-Key", "n"), by decide, rfl, rfl⟩,
      by decide, ?_⟩
    rintro earlier hearlier v ⟨field, hfield, hname, rfl⟩
    rw [List.mem_singleton.1 hearlier] at hname
    revert hname field
    decide +kernel
  · exact ⟨[], "X-Swish-Timestamp", ["X-Timestamp"], rfl,
      ⟨("X-Swish-Timestamp", " 300 "), by decide, rfl, rfl⟩, by decide, by simp⟩

end Delivery

end WebhookAuth
