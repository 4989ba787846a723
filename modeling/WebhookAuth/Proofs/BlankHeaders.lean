import WebhookAuth.Proofs.HeaderVariables
import WebhookAuth.Proofs.History

/-!
# Blank headers

Whether a value is blank is asked of the first field with a name only. So a blank field counts as
absent as long as no other field with its name stands behind it: taking the blank fields out of a
bag leaves the delivery as it is unless one of them hides a header (`Fields.Hides`), and nothing is
hidden where names differ in more than letter case (`Fields.not_hides_of_nodup`).
-/

namespace WebhookAuth

open Verifier

namespace Fields

/-- The fields with a value that is not blank. -/
def withoutBlanks (fields : Fields) : Fields :=
  fields.filter fun field => !Text.isBlankText field.2

/-- Some field with the lowercase name has a value that is not blank. -/
def Populates (fields : Fields) (name : String) : Prop :=
  ∃ field ∈ fields, Text.lower field.1 = name ∧ Text.isBlankText field.2 = false

/-- The first field with the lowercase name is blank, and another one is not. -/
def Masks (fields : Fields) (name : String) : Prop :=
  (∃ value ∈ firstValue? fields name, Text.isBlankText value = true) ∧ fields.Populates name

/-- A blank field hides the header with a role: it masks the first name that is populated, and the
names after that do not make up for the value that is passed over. -/
def Hides (fields : Fields) (names : HeaderNames) (role : Role) : Prop :=
  ∃ before name after, names.lookupOrder role = before ++ name :: after ∧
    (∀ earlier ∈ before, ¬fields.Populates earlier) ∧ fields.Masks name ∧
      header? names fields role ≠ firstValue? fields.withoutBlanks name

variable {names : HeaderNames} {fields : Fields} {role : Role} {name value : String}

/-! ### First values -/

theorem mem_withoutBlanks {field : String × String} :
    field ∈ fields.withoutBlanks ↔ field ∈ fields ∧ Text.isBlankText field.2 = false := by
  simp [withoutBlanks]

theorem isBlankText_of_withoutBlanks (h : firstValue? fields.withoutBlanks name = some value) :
    Text.isBlankText value = false := by
  obtain ⟨field, hfind, rfl⟩ := Option.map_eq_some_iff.1 h
  exact (mem_withoutBlanks.1 (List.mem_of_find?_eq_some hfind)).2

theorem firstValue?_withoutBlanks_eq_none_iff :
    firstValue? fields.withoutBlanks name = none ↔ ¬fields.Populates name := by
  rw [firstValue?, Option.map_eq_none_iff, List.find?_eq_none]
  constructor
  · rintro h ⟨field, hmem, hname, hvalue⟩
    exact h field (mem_withoutBlanks.2 ⟨hmem, hvalue⟩) (decide_eq_true hname)
  · intro h field hmem hname
    obtain ⟨hmem, hvalue⟩ := mem_withoutBlanks.1 hmem
    exact h ⟨field, hmem, of_decide_eq_true hname, hvalue⟩

/-- A first value that is not blank stays the first. -/
theorem firstValue?_withoutBlanks_of_not_blank (h : firstValue? fields name = some value)
    (hvalue : Text.isBlankText value = false) :
    firstValue? fields.withoutBlanks name = some value := by
  obtain ⟨field, hfind, rfl⟩ := Option.map_eq_some_iff.1 h
  obtain ⟨hname, front, back, rfl, hfront⟩ := List.find?_eq_some_iff_append.1 hfind
  have hnone : (withoutBlanks front).find? (fun field => Text.lower field.1 = name) = none :=
    List.find?_eq_none.2 fun other hother =>
      by simpa using hfront other (mem_withoutBlanks.1 hother).1
  have hsplit : withoutBlanks (front ++ field :: back) =
      withoutBlanks front ++ field :: withoutBlanks back := by
    simp [withoutBlanks, hvalue]
  rw [firstValue?, hsplit, List.find?_append, hnone, Option.none_or, List.find?_cons, hname]
  rfl

theorem populates_of_firstValue? (h : firstValue? fields name = some value)
    (hvalue : Text.isBlankText value = false) : fields.Populates name := by
  by_contra hnone
  rw [← firstValue?_withoutBlanks_eq_none_iff,
    firstValue?_withoutBlanks_of_not_blank h hvalue] at hnone
  cases hnone

/-- Under a name that is not masked the first value that is not blank is the first value. -/
theorem firstValue?_of_not_masks (hmasks : ¬fields.Masks name)
    (h : firstValue? fields.withoutBlanks name = some value) :
    firstValue? fields name = some value := by
  have hpopulates : fields.Populates name := by
    by_contra hnone
    rw [firstValue?_withoutBlanks_eq_none_iff.2 hnone] at h
    cases h
  obtain ⟨first, hfirst⟩ : ∃ first, firstValue? fields name = some first := by
    obtain ⟨field, hmem, hname, -⟩ := hpopulates
    refine Option.ne_none_iff_exists'.1 fun hnone => ?_
    exact firstValue?_eq_none_iff.1 hnone field.2 (mem_folded.2 ⟨field, hmem, hname, rfl⟩)
  have hvalue : Text.isBlankText first = false := by
    by_contra hblank
    exact hmasks ⟨⟨first, hfirst, by simpa using hblank⟩, hpopulates⟩
  rw [hfirst, ← firstValue?_withoutBlanks_of_not_blank hfirst hvalue, h]

/-! ### Headers -/

/-- The headers without the blank fields are found under the first name that is populated. -/
theorem header?_withoutBlanks_eq_some_iff :
    header? names fields.withoutBlanks role = some value ↔
      ∃ before name after, names.lookupOrder role = before ++ name :: after ∧
        (∀ earlier ∈ before, ¬fields.Populates earlier) ∧
          firstValue? fields.withoutBlanks name = some value := by
  rw [header?_eq_some_iff]
  refine exists_congr fun before => exists_congr fun name => exists_congr fun after =>
    and_congr_right fun _ => ?_
  have hbefore : (∀ earlier ∈ before, ∀ v ∈ firstValue? fields.withoutBlanks earlier,
      Text.isBlankText v = true) ↔ ∀ earlier ∈ before, ¬fields.Populates earlier := by
    refine forall_congr' fun earlier => imp_congr_right fun _ => ?_
    rw [← firstValue?_withoutBlanks_eq_none_iff, Option.eq_none_iff_forall_not_mem]
    refine forall_congr' fun v => imp_congr_right fun hv => iff_of_false ?_ id
    rw [isBlankText_of_withoutBlanks hv]
    decide
  rw [hbefore]
  constructor
  · rintro ⟨hvalue, -, hnone⟩
    exact ⟨hnone, hvalue⟩
  · rintro ⟨hnone, hvalue⟩
    exact ⟨hvalue, isBlankText_of_withoutBlanks hvalue, hnone⟩

/-- A header is the same without the blank fields just if none of them hides it. -/
theorem header?_withoutBlanks_eq_iff :
    header? names fields.withoutBlanks role = header? names fields role ↔
      ¬fields.Hides names role := by
  constructor
  · rintro heq ⟨before, name, after, horder, hbefore, ⟨-, hpopulates⟩, hne⟩
    obtain ⟨value, hvalue⟩ := Option.ne_none_iff_exists'.1
      (mt firstValue?_withoutBlanks_eq_none_iff.1 (not_not.2 hpopulates))
    refine hne ?_
    rw [hvalue, ← heq]
    exact header?_withoutBlanks_eq_some_iff.2 ⟨before, name, after, horder, hbefore, hvalue⟩
  · intro hhides
    cases hheader : header? names fields.withoutBlanks role with
    | none =>
      -- what is there with the blank fields would be there without them
      symm
      refine header?_eq_none_iff.2 fun name hname value hvalue => ?_
      by_contra hblank
      have hshown := firstValue?_withoutBlanks_of_not_blank hvalue (by simpa using hblank)
      exact hblank (header?_eq_none_iff.1 hheader name hname value hshown)
    | some value =>
      obtain ⟨before, name, after, horder, hbefore, hvalue⟩ :=
        header?_withoutBlanks_eq_some_iff.1 hheader
      by_cases hmasks : fields.Masks name
      · by_contra hne
        refine hhides ⟨before, name, after, horder, hbefore, hmasks, ?_⟩
        rw [hvalue]
        exact Ne.symm hne
      · symm
        refine header?_eq_some_iff.2 ⟨before, name, after, horder,
          firstValue?_of_not_masks hmasks hvalue, isBlankText_of_withoutBlanks hvalue, ?_⟩
        intro earlier hearlier v hv
        by_contra hblank
        exact hbefore earlier hearlier (populates_of_firstValue? hv (by simpa using hblank))

/-- What hides a header has a name of it: there is a blank field with that name and one that is not
blank. -/
theorem Hides.exists_same_name (h : fields.Hides names role) :
    ∃ name ∈ names.lookupOrder role, ∃ blank ∈ fields, ∃ field ∈ fields,
      Text.lower blank.1 = name ∧ Text.lower field.1 = name ∧
        Text.isBlankText blank.2 = true ∧ Text.isBlankText field.2 = false := by
  obtain ⟨before, name, after, horder, -, ⟨⟨value, hfirst, hvalue⟩, hpopulates⟩, -⟩ := h
  obtain ⟨field, hmem, hname, hfield⟩ := hpopulates
  obtain ⟨blank, hblank, hsame, rfl⟩ := mem_folded.1 (mem_folded_of_firstValue? hfirst)
  refine ⟨name, ?_, blank, hblank, field, hmem, hsame, hname, hvalue, hfield⟩
  rw [horder]
  exact List.mem_append_right _ List.mem_cons_self

/-- Nothing is hidden where names differ in more than letter case. -/
theorem not_hides_of_nodup (h : ((folded fields).map (·.1)).Nodup) (names : HeaderNames)
    (role : Role) : ¬fields.Hides names role := by
  intro hhides
  obtain ⟨name, -, blank, hblank, field, hfield, hname, hname', hvalue, hvalue'⟩ :=
    hhides.exists_same_name
  have hsame := value_unique h (mem_folded.2 ⟨blank, hblank, hname, rfl⟩)
    (mem_folded.2 ⟨field, hfield, hname', rfl⟩)
  rw [hsame, hvalue'] at hvalue
  cases hvalue

end Fields

/-! ### Deliveries -/

/-- The blank fields of a bag count as absent, but for those that hide a header. Taking them all out
leaves the delivery as it is just if none of them does; then every call of the verifier has the same
outcome, over any kind of store. One that hides a header has the same name as a field that is not
blank, up to letter case; so none is in the way of a header under another name. -/
theorem Delivery.ofFields_withoutBlanks (names : HeaderNames) (body : Bytes) (fields : Fields) :
    (Delivery.ofFields names body fields.withoutBlanks = Delivery.ofFields names body fields ↔
        ∀ role, ¬fields.Hides names role) ∧
      ((∀ role, ¬fields.Hides names role) →
        ∀ (Store : Type) (reserve : Reserver Store) (config : Config) (store : Store)
          (caller : Caller) (now : DateTime), config.names = names →
            verifyOver reserve config store ⟨caller, body, fields.withoutBlanks, now⟩ =
              verifyOver reserve config store ⟨caller, body, fields, now⟩) ∧
      ∀ role, fields.Hides names role →
        ∃ name ∈ names.lookupOrder role, ∃ blank ∈ fields, ∃ field ∈ fields,
          Text.lower blank.1 = name ∧ Text.lower field.1 = name ∧
            Text.isBlankText blank.2 = true ∧ Text.isBlankText field.2 = false := by
  have hiff : Delivery.ofFields names body fields.withoutBlanks =
      Delivery.ofFields names body fields ↔ ∀ role, ¬fields.Hides names role := by
    rw [Delivery.ofFields_eq_iff]
    exact forall_congr' fun role => Fields.header?_withoutBlanks_eq_iff
  refine ⟨hiff, fun h Store reserve config store caller now hnames => ?_,
    fun role h => h.exists_same_name⟩
  have hdelivery : (⟨caller, body, fields.withoutBlanks, now⟩ : Call).delivery config =
      (⟨caller, body, fields, now⟩ : Call).delivery config := by
    unfold Call.delivery
    rw [hnames]
    exact hiff.2 h
  unfold verifyOver
  rw [hdelivery]

/-- The sample delivery with its nonce under the alias, and a blank field under the canonical
name. -/
def sampleAliased : Fields :=
  [("X-Swish-Nonce", " \t"), ("X-Swish-Timestamp", "300"), ("X-Nonce", "n"),
    ("X-Swish-Signature", sampleSignature)]

/-- A nonce behind a blank one. -/
def sampleMasked : Fields := [("X-Swish-Nonce", ""), ("X-Swish-Nonce", "abc")]

theorem nonce_sampleMasked :
    (Delivery.ofFields {} [] sampleMasked).nonce = none ∧
      (Delivery.ofFields {} [] sampleMasked.withoutBlanks).nonce = some "abc" := by
  decide +kernel

theorem Delivery.ofFields_withoutBlanks_samples :
    (Delivery.ofFields {} [120, 10, 121] sampleAliased).nonce = some "n" ∧
      Delivery.ofFields {} [120, 10, 121] sampleAliased.withoutBlanks =
        Delivery.ofFields {} [120, 10, 121] sampleAliased ∧
      verify sampleConfig (.memory .empty)
          ⟨.blocking, [120, 10, 121], sampleAliased.withoutBlanks, sampleMinute 5⟩ =
        verify sampleConfig (.memory .empty)
          ⟨.blocking, [120, 10, 121], sampleAliased, sampleMinute 5⟩ ∧
      ∃ role, sampleMasked.Hides {} role ∧
        ∃ name ∈ HeaderNames.lookupOrder {} role, ∃ blank ∈ sampleMasked, ∃ field ∈ sampleMasked,
          Text.lower blank.1 = name ∧ Text.lower field.1 = name ∧
            Text.isBlankText blank.2 = true ∧ Text.isBlankText field.2 = false := by
  have hdistinct : ((folded sampleAliased).map (·.1)).Nodup := by decide +kernel
  have hhides := Fields.not_hides_of_nodup hdistinct {}
  obtain ⟨hiff, hverify, -⟩ := Delivery.ofFields_withoutBlanks {} [120, 10, 121] sampleAliased
  obtain ⟨hiffMasked, -, hname⟩ := Delivery.ofFields_withoutBlanks {} [] sampleMasked
  have hmasked : ¬∀ role, ¬sampleMasked.Hides {} role := by
    rw [← hiffMasked]
    intro heq
    have hnonce := congrArg Delivery.nonce heq
    rw [nonce_sampleMasked.1, nonce_sampleMasked.2] at hnonce
    cases hnonce
  obtain ⟨role, hrole⟩ := Classical.not_forall_not.1 hmasked
  exact ⟨by decide +kernel, hiff.2 hhides,
    hverify hhides NonceStore NonceStore.reserve sampleConfig (.memory .empty) .blocking
      (sampleMinute 5) rfl,
    role, hrole, hname role hrole⟩

/-- Of two fields with one name the first is blank, and the nonce in the other one is not found. -/
theorem Delivery.not_ofFields_withoutBlanks :
    ¬∀ (names : HeaderNames) (body : Bytes) (fields : Fields),
      Delivery.ofFields names body fields.withoutBlanks = Delivery.ofFields names body fields := by
  intro h
  have hnonce := congrArg Delivery.nonce (h {} [] sampleMasked)
  rw [nonce_sampleMasked.1, nonce_sampleMasked.2] at hnonce
  cases hnonce

end WebhookAuth
