import Mathlib.Data.List.Infix
import Mathlib.Data.List.TakeWhile
import Mathlib.Tactic
import WebhookAuth.Text.Blank

/-!
# Trimmed text

A text is trimmed of a class of characters if neither of its ends is one of them. Trimming gives the
one trimmed text between characters of the class (`Text.isTrimmed_trimBy`, `Text.exists_eq_trimBy`,
`Text.IsTrimmed.trimBy_append`). Every part without them lies in between (`Text.infix_between_iff`),
and a part without a separator lies before or behind that (`Text.infix_append_cons_iff`).
-/

namespace WebhookAuth.Text

variable {p : Char → Bool} {front text back part : List Char} {separator : Char}

/-! ### Both ends of a text -/

/-- Neither end of the text is a character of the class. -/
structure IsTrimmed (p : Char → Bool) (text : List Char) : Prop where
  head : ∀ c ∈ text.head?, p c = false
  last : ∀ c ∈ text.getLast?, p c = false

/-- None of the characters is of the class, which for a given text can be computed. -/
theorem forall_of_all (h : text.all (!p ·) = true) : ∀ c ∈ text, p c = false := fun c hc => by
  simpa using List.all_eq_true.1 h c hc

theorem isTrimmed_of_forall (h : ∀ c ∈ text, p c = false) : IsTrimmed p text :=
  ⟨fun c hc => h c (List.mem_of_mem_head? hc), fun c hc => h c (List.mem_of_mem_getLast? hc)⟩

/-- Two trimmed texts after each other are trimmed. -/
theorem IsTrimmed.append (h : IsTrimmed p text) (hback : IsTrimmed p back) :
    IsTrimmed p (text ++ back) := by
  constructor
  · intro c hc
    rw [List.head?_append] at hc
    cases htext : text.head? with
    | none => exact hback.head c (by rwa [htext, Option.none_or] at hc)
    | some d => exact h.head c (by rwa [htext, Option.some_or, ← htext] at hc)
  · intro c hc
    rw [List.getLast?_append] at hc
    cases hlast : back.getLast? with
    | none => exact h.last c (by rwa [hlast, Option.none_or] at hc)
    | some d => exact hback.last c (by rwa [hlast, Option.some_or, ← hlast] at hc)

theorem dropWhile_of_head (h : ∀ c ∈ text.head?, p c = false) : text.dropWhile p = text := by
  cases text with
  | nil => rfl
  | cons c text => exact List.dropWhile_cons_of_neg (by simp [h c rfl])

/-- A trimmed text is what is left of it between characters of the class. -/
theorem IsTrimmed.trimBy_append (h : IsTrimmed p text) (hfront : ∀ c ∈ front, p c = true)
    (hback : ∀ c ∈ back, p c = true) : trimBy p (front ++ text ++ back) = text := by
  have hreverse : ∀ c ∈ back.reverse, p c = true := fun c hc => hback c (List.mem_reverse.1 hc)
  unfold trimBy
  rw [List.append_assoc, List.dropWhile_append_of_pos hfront]
  cases text with
  | nil =>
    rw [List.nil_append, List.dropWhile_eq_nil_iff.2 hback]
    rfl
  | cons c text =>
    have hlast : ∀ d ∈ (c :: text).reverse.head?, p d = false := by
      rw [List.head?_reverse]
      exact h.last
    have hhead : ∀ d ∈ (c :: text ++ back).head?, p d = false := h.head
    rw [dropWhile_of_head hhead, List.reverse_append, List.dropWhile_append_of_pos hreverse,
      dropWhile_of_head hlast, List.reverse_reverse]

/-- Nothing is trimmed off a trimmed text. -/
theorem IsTrimmed.trimBy_eq (h : IsTrimmed p text) : trimBy p text = text := by
  have hnone : ∀ c ∈ [], p c = true := fun c hc => absurd hc List.not_mem_nil
  have htrim := h.trimBy_append hnone hnone
  rwa [List.nil_append, List.append_nil] at htrim

/-- A text without a character of the class is what is left of it between characters of the
class. -/
theorem trimBy_append (hfront : ∀ c ∈ front, p c = true) (htext : ∀ c ∈ text, p c = false)
    (hback : ∀ c ∈ back, p c = true) : trimBy p (front ++ text ++ back) = text :=
  (isTrimmed_of_forall htext).trimBy_append hfront hback

/-- Nothing is trimmed off a text without a character of the class. -/
theorem trimBy_eq_self (h : ∀ c ∈ text, p c = false) : trimBy p text = text :=
  (isTrimmed_of_forall h).trimBy_eq

/-- Only characters of the class are trimmed off. -/
theorem exists_eq_trimBy (p : Char → Bool) (text : List Char) :
    ∃ front back, text = front ++ trimBy p text ++ back ∧ (∀ c ∈ front, p c = true) ∧
      ∀ c ∈ back, p c = true := by
  refine ⟨text.takeWhile p, ((text.dropWhile p).reverse.takeWhile p).reverse, ?_,
    fun c hc => List.mem_takeWhile_imp hc,
    fun c hc => List.mem_takeWhile_imp (List.mem_reverse.1 hc)⟩
  unfold trimBy
  rw [List.append_assoc, ← List.reverse_append, List.takeWhile_append_dropWhile,
    List.reverse_reverse, List.takeWhile_append_dropWhile]

theorem isTrimmed_trimBy (p : Char → Bool) (text : List Char) : IsTrimmed p (trimBy p text) := by
  have hlast : ∀ c ∈ (trimBy p text).getLast?, p c = false := by
    intro c hc
    rw [trimBy, List.getLast?_reverse] at hc
    have hfirst := List.head?_dropWhile_not p (text.dropWhile p).reverse
    rw [hc] at hfirst
    simpa using hfirst
  have hhead : ∀ c ∈ (trimBy p text).head?, p c = false := by
    intro c hc
    -- a text that is not empty starts with what is left of it once the end is trimmed
    have hstart : text.dropWhile p =
        trimBy p text ++ ((text.dropWhile p).reverse.takeWhile p).reverse := by
      rw [trimBy, ← List.reverse_append, List.takeWhile_append_dropWhile, List.reverse_reverse]
    have hfirst := List.head?_dropWhile_not p text
    rw [hstart, List.head?_append, hc, Option.some_or] at hfirst
    simpa using hfirst
  exact ⟨hhead, hlast⟩

/-- A text that starts with another character loses characters at its end only. -/
theorem exists_trimBy_cons_eq {c : Char} (h : p c = false) (text : List Char) :
    ∃ kept back, trimBy p (c :: text) = c :: kept ∧ text = kept ++ back ∧
      ∀ d ∈ back, p d = true := by
  obtain ⟨front, back, htext, hfront, hback⟩ := exists_eq_trimBy p (c :: text)
  have hnot {blanks : List Char} (hblanks : ∀ d ∈ blanks, p d = true) : c ∉ blanks := fun hc => by
    rw [hblanks c hc] at h
    cases h
  rw [List.append_assoc, List.cons_eq_append_iff] at htext
  rcases htext with ⟨-, htext⟩ | ⟨front', rfl, -⟩
  · rw [eq_comm, List.cons_eq_append_iff] at htext
    rcases htext with ⟨-, rfl⟩ | ⟨kept, htrim, hrest⟩
    · exact absurd List.mem_cons_self (hnot hback)
    · exact ⟨kept, back, htrim, hrest, hback⟩
  · exact absurd List.mem_cons_self (hnot hfront)

/-! ### Parts of a text -/

theorem contains_eq_true_iff : contains part text = true ↔ part <:+: text := by
  induction text with
  | nil => simp [contains]
  | cons c text ih => rw [contains, Bool.or_eq_true, List.isPrefixOf_iff_prefix, ih,
      List.infix_cons_iff]

theorem prefix_append_cons_iff (h : separator ∉ part) (text back : List Char) :
    part <+: text ++ separator :: back ↔ part <+: text := by
  induction part generalizing text with
  | nil => simp
  | cons c part ih =>
    rw [List.mem_cons, not_or] at h
    cases text with
    | nil => simp [List.cons_prefix_cons, Ne.symm h.1]
    | cons d text => rw [List.cons_append, List.cons_prefix_cons, List.cons_prefix_cons, ih h.2]

/-- A part without the separator lies before it or behind it. -/
theorem infix_append_cons_iff (h : separator ∉ part) :
    part <:+: text ++ separator :: back ↔ part <:+: text ∨ part <:+: back := by
  induction text with
  | nil =>
    have hstart : part <+: separator :: back ↔ part <+: [] :=
      prefix_append_cons_iff h [] back
    rw [List.nil_append, List.infix_cons_iff, hstart, List.prefix_nil, List.infix_nil]
  | cons c text ih =>
    have hstart : part <+: c :: (text ++ separator :: back) ↔ part <+: c :: text :=
      prefix_append_cons_iff h (c :: text) back
    rw [List.cons_append, List.infix_cons_iff, List.infix_cons_iff, ih, hstart, or_assoc]

/-- A part that is not empty and has no character of the class lies between them. -/
theorem infix_between_iff (hpart : part ≠ []) (h : ∀ c ∈ part, p c = false)
    (hfront : ∀ c ∈ front, p c = true) (hback : ∀ c ∈ back, p c = true) :
    part <:+: front ++ text ++ back ↔ part <:+: text := by
  have hnone {blanks : List Char} (hblanks : ∀ c ∈ blanks, p c = true) : ¬part <:+: blanks := by
    intro hin
    obtain ⟨c, hc⟩ := List.exists_mem_of_ne_nil part hpart
    exact absurd (h c hc) (by rw [hblanks c (hin.subset hc)]; decide)
  have hmem {c : Char} (hc : p c = true) : c ∉ part := fun hin => by
    rw [h c hin] at hc
    cases hc
  have hbehind : part <:+: front ++ text ++ back ↔ part <:+: front ++ text := by
    cases back with
    | nil => rw [List.append_nil]
    | cons c back =>
      rw [List.forall_mem_cons] at hback
      rw [infix_append_cons_iff (hmem hback.1), or_iff_left (hnone hback.2)]
  have hbefore : part <:+: front ++ text ↔ part <:+: text := by
    rcases List.eq_nil_or_concat front with rfl | ⟨front', c, rfl⟩
    · rw [List.nil_append]
    · rw [List.concat_eq_append] at hfront ⊢
      rw [List.append_assoc, List.singleton_append,
        infix_append_cons_iff (hmem (hfront c (by simp))),
        or_iff_right (hnone fun d hd => hfront d (List.mem_append_left _ hd))]
  rw [hbehind, hbefore]

theorem infix_trimBy_iff (hpart : part ≠ []) (h : ∀ c ∈ part, p c = false) :
    part <:+: trimBy p text ↔ part <:+: text := by
  obtain ⟨front, back, htext, hfront, hback⟩ := exists_eq_trimBy p text
  rw [← infix_between_iff hpart h hfront hback, ← htext]

/-- A separator that neither first part contains is at one place. -/
theorem eq_of_append_cons_eq {α : Type} {sep : α} {x x' z z' : List α} (hx : sep ∉ x)
    (hx' : sep ∉ x') (h : x ++ sep :: z = x' ++ sep :: z') : x = x' ∧ z = z' := by
  rw [List.append_eq_append_iff] at h
  rcases h with ⟨between, rfl, hrest⟩ | ⟨between, rfl, hrest⟩
  · cases between with
    | nil => simpa using hrest
    | cons b between =>
      cases hrest
      simp at hx'
  · cases between with
    | nil => simpa [eq_comm] using hrest
    | cons b between =>
      cases hrest
      simp at hx

/-- A separator that is not in the text before it cuts that text off. -/
theorem cut_append_cons (h : separator ∉ text) :
    cut separator (text ++ separator :: back) = (text, some back) := by
  have hbefore : ∀ c ∈ text, (c != separator) = true := fun c hc => by
    rw [bne_iff_ne]
    rintro rfl
    exact h hc
  unfold cut
  rw [List.dropWhile_append_of_pos hbefore, List.takeWhile_append_of_pos hbefore]
  simp

end WebhookAuth.Text
