/-!
# Named fields

Names with values, in order. A bag of header fields may repeat a name; the operations that put a
field keep names distinct where they are.
-/

namespace WebhookAuth

/-- Names with values, in order. The values are strings unless something else is said. -/
abbrev Fields (Value : Type := String) := List (String × Value)

namespace Fields

variable {Value : Type}

/-- The value of the first field with a name. -/
def get? (fields : Fields Value) (name : String) : Option Value :=
  fields.lookup name

/-- Gives a name a value; a name that is there keeps its place. -/
def set : Fields Value → String → Value → Fields Value
  | [], name, value => [(name, value)]
  | (n, v) :: rest, name, value =>
    if n = name then (name, value) :: rest else (n, v) :: set rest name value

/-- Gives a name a value unless it has one. -/
def setIfAbsent (fields : Fields Value) (name : String) (value : Value) : Fields Value :=
  if (fields.lookup name).isSome then fields else fields ++ [(name, value)]

/-- The fields after a sequence of assignments: each name once, where it first came, with its last
value. -/
def ofAssignments (assignments : Fields Value) : Fields Value :=
  assignments.foldl (fun fields a => fields.set a.1 a.2) []

@[simp] theorem get?_nil (name : String) : get? ([] : Fields Value) name = none := rfl

theorem get?_cons (n : String) (v : Value) (name : String) (rest : Fields Value) :
    get? ((n, v) :: rest) name = if name = n then some v else get? rest name := by
  by_cases h : name = n
  · simp [get?, h]
  · have hne : (name == n) = false := by simpa using h
    simp [get?, List.lookup_cons, h, hne]

@[simp] theorem get?_set_self (fields : Fields Value) (name : String) (value : Value) :
    (fields.set name value).get? name = some value := by
  induction fields with
  | nil => simp [set, get?_cons]
  | cons field rest ih =>
    obtain ⟨n, v⟩ := field
    by_cases h : n = name
    · simp [set, h, get?_cons]
    · simp [set, h, get?_cons, Ne.symm h, ih]

theorem get?_set_of_ne (fields : Fields Value) {name other : String} (value : Value)
    (h : other ≠ name) : (fields.set name value).get? other = fields.get? other := by
  induction fields with
  | nil => simp [set, get?_cons, h]
  | cons field rest ih =>
    obtain ⟨n, v⟩ := field
    by_cases hn : n = name
    · subst hn
      simp [set, get?_cons, h]
    · simp [set, hn, get?_cons, ih]

end Fields

end WebhookAuth
