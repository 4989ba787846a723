import Mathlib.Tactic
import WebhookAuth.Delivery

/-!
# Looking headers up

The folded fields give under a lowercase name what the first field with that name says, in whatever
letter case it is written (`get?_normalize`). The value of a header is the first that is not blank
under the names of its role (`header?_eq_some_iff`), and a delivery has the values of its three
headers (`Delivery.ofFields_eq`, `Delivery.ofFields_eq_iff`).
-/

namespace WebhookAuth

section Values

variable {Value : Type}

theorem Fields.get?_setIfAbsent (fields : Fields Value) (n : String) (v : Value) (name : String) :
    (fields.setIfAbsent n v).get? name =
      (fields.get? name).or (if name = n then some v else none) := by
  unfold setIfAbsent get?
  split_ifs with hthere hname hname
  · rw [← hname] at hthere
    rw [Option.or_of_isSome hthere]
  · rw [Option.or_none]
  · rw [List.lookup_append, List.lookup_cons, hname, beq_self_eq_true]
  · rw [List.lookup_append, List.lookup_cons, beq_eq_false_iff_ne.2 hname]
    rfl

/-- The value of the first field with a lowercase name, in whatever letter case it is written. -/
def firstValue? (fields : Fields Value) (name : String) : Option Value :=
  (fields.find? fun field => Text.lower field.1 = name).map (·.2)

theorem get?_foldl_setIfAbsent (found fields : Fields Value) (name : String) :
    (fields.foldl (fun found field => found.setIfAbsent (Text.lower field.1) field.2) found).get?
      name = (found.get? name).or (firstValue? fields name) := by
  induction fields generalizing found with
  | nil => simp [firstValue?]
  | cons field fields ih =>
    rw [List.foldl_cons, ih, Fields.get?_setIfAbsent, Option.or_assoc]
    congr 1
    unfold firstValue?
    rw [List.find?_cons]
    by_cases hname : Text.lower field.1 = name
    · rw [if_pos hname.symm, decide_eq_true hname]
      rfl
    · rw [if_neg (Ne.symm hname), decide_eq_false hname]
      rfl

theorem get?_normalize (fields : Fields Value) (name : String) :
    (normalize fields).get? name = firstValue? fields name := by
  rw [normalize, get?_foldl_setIfAbsent]
  rfl

/-- The value of the header with a role: the first that is not blank under its names, in their
order. -/
def headerBy? (isBlank : Value → Bool) (names : HeaderNames) (fields : Fields Value)
    (role : Role) : Option Value :=
  (names.lookupOrder role).findSome? fun name =>
    (firstValue? fields name).filter fun value => !isBlank value

theorem pick_normalize (isBlank : Value → Bool) (names : HeaderNames) (fields : Fields Value)
    (role : Role) :
    pick isBlank (normalize fields) (names.lookupOrder role) =
      headerBy? isBlank names fields role := by
  unfold pick headerBy?
  simp only [get?_normalize]

/-- A delivery has the values of its three headers, by whatever way blank ones are told. -/
theorem Delivery.gather_eq (isBlank : Value → Bool) (names : HeaderNames) (body : Bytes)
    (fields : Fields Value) :
    Delivery.gather isBlank names body fields =
      ⟨body, headerBy? isBlank names fields .timestamp,
        headerBy? isBlank names fields .signature, headerBy? isBlank names fields .nonce⟩ := by
  unfold Delivery.gather
  simp only [pick_normalize]

end Values

variable {names : HeaderNames} {fields : Fields} {role : Role} {value : String}

/-- The value of the header with a role in a bag of strings. -/
def header? (names : HeaderNames) (fields : Fields) (role : Role) : Option String :=
  headerBy? Text.isBlankText names fields role

theorem header?_eq_some_iff :
    header? names fields role = some value ↔
      ∃ before name after, names.lookupOrder role = before ++ name :: after ∧
        firstValue? fields name = some value ∧ Text.isBlankText value = false ∧
        ∀ earlier ∈ before, ∀ v ∈ firstValue? fields earlier, Text.isBlankText v = true := by
  simp [header?, headerBy?, List.findSome?_eq_some_iff, and_assoc]

theorem header?_eq_none_iff :
    header? names fields role = none ↔
      ∀ name ∈ names.lookupOrder role, ∀ v ∈ firstValue? fields name,
        Text.isBlankText v = true := by
  simp [header?, headerBy?]

/-- The value of a header depends on the first values under the names of its role only. -/
theorem header?_congr {fields' : Fields}
    (h : ∀ name ∈ names.lookupOrder role, firstValue? fields name = firstValue? fields' name) :
    header? names fields role = header? names fields' role := by
  unfold header? headerBy?
  rw [← List.head?_filterMap, ← List.head?_filterMap]
  congr 1
  exact List.filterMap_congr fun name hname => by rw [h name hname]

/-- A delivery has the values of its three headers. -/
theorem Delivery.ofFields_eq (names : HeaderNames) (body : Bytes) (fields : Fields) :
    Delivery.ofFields names body fields =
      ⟨body, header? names fields .timestamp, header? names fields .signature,
        header? names fields .nonce⟩ := by
  rw [Delivery.ofFields, Delivery.gather_eq]
  rfl

/-- Two bags make the same delivery just if every header has the same value in them. -/
theorem Delivery.ofFields_eq_iff {fields' : Fields} (body : Bytes) :
    Delivery.ofFields names body fields = Delivery.ofFields names body fields' ↔
      ∀ role, header? names fields role = header? names fields' role := by
  rw [Delivery.ofFields_eq, Delivery.ofFields_eq, Delivery.mk.injEq]
  constructor
  · rintro ⟨-, htimestamp, hsignature, hnonce⟩ role
    cases role with
    | timestamp => exact htimestamp
    | signature => exact hsignature
    | nonce => exact hnonce
  · exact fun h => ⟨rfl, h .timestamp, h .signature, h .nonce⟩

end WebhookAuth
