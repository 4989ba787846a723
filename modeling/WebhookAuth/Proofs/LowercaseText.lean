import Mathlib.Tactic
import WebhookAuth.Text.Lowercase

/-!
# Text in lowercase

Lowercase is reached in one step (`Text.lower_lower`). A character that no run of capitals covers
stays as it is, whatever stands around it (`Text.lowerFrom_of_isLower`); and no run leads to a
character that another one covers (`Text.avoids_of_mem`), so a lowercase form consists of such
characters, those that come of a capital sigma and of a dotted capital I among them.
-/

namespace WebhookAuth.Text

/-! ### Runs -/

namespace CaseRun

variable {run other : CaseRun} {n : ℕ}

/-- The code point of the lowercase form of a character in the run. -/
def image (run : CaseRun) (n : ℕ) : ℕ := ((n : ℤ) + run.shift).toNat

/-- The images of the run are apart from the other run, or out of step with it. -/
def avoids (run other : CaseRun) : Bool :=
  run.image run.last < other.first || other.last < run.image run.first ||
    ((run.first == run.last || run.step % other.step == 0) &&
      (run.image run.first - other.first) % other.step != 0)

/-- The images of the run are the code points of characters. -/
def staysValid (run : CaseRun) : Bool :=
  run.image run.last < 0xD800 || (0xDFFF < run.image run.first && run.image run.last < 0x110000)

theorem covers_iff :
    run.covers n = true ↔ run.first ≤ n ∧ n ≤ run.last ∧ run.step ∣ n - run.first := by
  simp [covers, and_assoc, Nat.dvd_iff_mod_eq_zero]

theorem covers_step_one {first last : ℕ} {shift : ℤ} :
    (CaseRun.mk first last 1 shift).covers n = true ↔ first ≤ n ∧ n ≤ last := by
  simp [covers_iff]

theorem image_mono {m : ℕ} (h : m ≤ n) : run.image m ≤ run.image n := by
  unfold image
  omega

/-- Past the first image the run goes on in its own steps. -/
theorem image_eq_add (hpos : 0 < run.image run.first) (h : run.first ≤ n) :
    run.image n = run.image run.first + (n - run.first) := by
  unfold image at *
  omega

/-- A run leads to no character of a run that it avoids. -/
theorem not_covers_image (havoids : run.avoids other = true) (hn : run.covers n = true) :
    other.covers (run.image n) = false := by
  obtain ⟨hfirst, hlast, hstep⟩ := covers_iff.1 hn
  have hlower : run.image run.first ≤ run.image n := image_mono hfirst
  have hupper : run.image n ≤ run.image run.last := image_mono hlast
  simp only [avoids, Bool.or_eq_true, Bool.and_eq_true, decide_eq_true_eq, beq_iff_eq,
    bne_iff_ne] at havoids
  rw [← Bool.not_eq_true, covers_iff]
  rintro ⟨hother, hother', hdvd⟩
  obtain (hbelow | habove) | ⟨hsteps, hoff⟩ := havoids
  · omega
  · omega
  · -- the images and the other run go in the same steps, from starts that are not in step
    have hstart : other.first < run.image run.first := by
      by_contra hle
      rw [Nat.sub_eq_zero_of_le (not_lt.1 hle), Nat.zero_mod] at hoff
      exact hoff rfl
    have hcommon : other.step ∣ n - run.first := by
      rcases hsteps with hsingle | hsteps
      · rw [show n - run.first = 0 by omega]
        exact dvd_zero _
      · exact (Nat.dvd_of_mod_eq_zero hsteps).trans hstep
    have hsplit : run.image n - other.first =
        (run.image run.first - other.first) + (n - run.first) := by
      have himage : run.image n = run.image run.first + (n - run.first) :=
        image_eq_add (by omega) hfirst
      omega
    rw [hsplit, Nat.dvd_add_left hcommon] at hdvd
    exact hoff (Nat.mod_eq_zero_of_dvd hdvd)

theorem isValidChar_image (hvalid : run.staysValid = true) (hn : run.covers n = true) :
    (run.image n).isValidChar := by
  obtain ⟨hfirst, hlast, -⟩ := covers_iff.1 hn
  have hlower : run.image run.first ≤ run.image n := image_mono hfirst
  have hupper : run.image n ≤ run.image run.last := image_mono hlast
  simp only [staysValid, Bool.or_eq_true, Bool.and_eq_true, decide_eq_true_eq] at hvalid
  unfold Nat.isValidChar
  omega

end CaseRun

/-! ### Characters that stay as they are -/

/-- The runs of all characters that have another lowercase form: the ASCII capitals, the dotted
capital I, whose form is of two characters and no shift away, and those of the table. -/
def capitalRuns : List CaseRun := ⟨0x41, 0x5A, 1, 32⟩ :: ⟨0x130, 0x130, 1, 0⟩ :: caseRuns

/-- No run of capitals covers the character. -/
def IsLower (c : Char) : Prop := ∀ run ∈ capitalRuns, run.covers c.toNat = false

instance (c : Char) : Decidable (IsLower c) :=
  decidable_of_iff ((capitalRuns.all fun run => !run.covers c.toNat) = true)
    (by simp only [IsLower, List.all_eq_true, Bool.not_eq_true'])

/-- No run of the table leads to a capital. -/
theorem avoids_of_mem : ∀ run ∈ caseRuns, ∀ other ∈ capitalRuns, run.avoids other = true := by
  -- the pairs are many, and a Boolean is cheaper to evaluate than an instance for each of them
  have hall : (caseRuns.all fun run => capitalRuns.all run.avoids) = true := by decide +kernel
  simpa only [List.all_eq_true] using hall

theorem staysValid_of_mem : ∀ run ∈ caseRuns, run.staysValid = true := by decide +kernel

theorem le_first_of_mem : ∀ run ∈ caseRuns, 128 ≤ run.first := by decide +kernel

section Characters

variable {c d : Char} {n : ℕ} {before after text : List Char}

theorem toNat_ofNat_of_isValidChar (h : n.isValidChar) : (Char.ofNat n).toNat = n := by
  rw [Char.ofNat, dif_pos h]
  rfl

theorem isCapital_iff : 'A' ≤ c ∧ c ≤ 'Z' ↔ 0x41 ≤ c.toNat ∧ c.toNat ≤ 0x5A := by
  rw [Char.le_def, Char.le_def, UInt32.le_iff_toNat_le, UInt32.le_iff_toNat_le]
  rfl

/-- What stays as it is: no ASCII capital, no dotted capital I, nothing of the table. -/
theorem isLower_iff : IsLower c ↔
    ¬('A' ≤ c ∧ c ≤ 'Z') ∧ c ≠ '\u0130' ∧ ∀ run ∈ caseRuns, run.covers c.toNat = false := by
  have hdotted : c ≠ '\u0130' ↔ c.toNat ≠ 0x130 := not_congr Char.toNat_inj.symm
  unfold IsLower capitalRuns
  rw [List.forall_mem_cons, List.forall_mem_cons, ← Bool.not_eq_true, ← Bool.not_eq_true,
    CaseRun.covers_step_one, CaseRun.covers_step_one, isCapital_iff, hdotted]
  refine and_congr_right fun _ => and_congr_left fun _ => ?_
  omega

theorem lowerChar_of_isLower (h : IsLower c) : lowerChar c = c := by
  obtain ⟨hcapital, -, htable⟩ := isLower_iff.1 h
  unfold lowerChar
  split_ifs with hascii
  · rw [lowerAscii, if_neg hcapital]
  · rw [List.find?_eq_none.2 fun run hrun => by simp [htable run hrun]]

/-- A character that no run of capitals covers stays as it is, whatever stands around it. -/
theorem lowerWithin_of_isLower (h : IsLower c) : lowerWithin before c after = [c] := by
  have hsigma : c ≠ '\u03a3' := by
    rintro rfl
    exact absurd h (by decide +kernel)
  rw [lowerWithin, if_neg hsigma, if_neg (isLower_iff.1 h).2.1, lowerChar_of_isLower h]

theorem lowerFrom_of_isLower (h : ∀ c ∈ text, IsLower c) : lowerFrom before text = text := by
  induction text generalizing before with
  | nil => rfl
  | cons c text ih =>
    rw [List.forall_mem_cons] at h
    rw [lowerFrom_cons, lowerWithin_of_isLower h.1, ih h.2, List.singleton_append]

/-! ### Lowercase forms -/

theorem isLower_of_ascii (h : c.toNat < 128) (hcapital : ¬('A' ≤ c ∧ c ≤ 'Z')) : IsLower c := by
  refine isLower_iff.2 ⟨hcapital, ?_, fun run hrun => ?_⟩
  · rintro rfl
    exact absurd h (by decide)
  · have hfirst := le_first_of_mem run hrun
    rw [← Bool.not_eq_true, CaseRun.covers_iff]
    omega

theorem isLower_lowerAscii (h : c.toNat < 128) : IsLower (lowerAscii c) := by
  unfold lowerAscii
  split_ifs with hcapital
  · obtain ⟨hfirst, hlast⟩ := isCapital_iff.1 hcapital
    have htoNat : (Char.ofNat (c.toNat + 32)).toNat = c.toNat + 32 :=
      toNat_ofNat_of_isValidChar (.inl (by omega))
    refine isLower_of_ascii (by omega) ?_
    rw [isCapital_iff]
    omega
  · exact isLower_of_ascii h hcapital

theorem isLower_image {run : CaseRun} (hrun : run ∈ caseRuns) (hn : run.covers n = true) :
    IsLower (Char.ofNat (run.image n)) := by
  intro other hother
  rw [toNat_ofNat_of_isValidChar (CaseRun.isValidChar_image (staysValid_of_mem run hrun) hn)]
  exact CaseRun.not_covers_image (avoids_of_mem run hrun other hother) hn

/-- A lowercase form of one character stays as it is. -/
theorem isLower_lowerChar (hdotted : c ≠ '\u0130') : IsLower (lowerChar c) := by
  unfold lowerChar
  split_ifs with hascii
  · exact isLower_lowerAscii hascii
  · split
    next run hfind =>
      have hcovers := List.find?_some hfind
      exact isLower_image (List.mem_of_find?_eq_some hfind) hcovers
    next hnone =>
      refine isLower_iff.2 ⟨fun hcapital => ?_, hdotted, fun run hrun => ?_⟩
      · have hlast := (isCapital_iff.1 hcapital).2
        omega
      · simpa using List.find?_eq_none.1 hnone run hrun

theorem isLower_of_mem_lowerWithin (h : d ∈ lowerWithin before c after) : IsLower d := by
  unfold lowerWithin at h
  split_ifs at h with hsigma hfinal hdotted
  · -- the final sigma
    rw [List.mem_singleton.1 h]
    decide +kernel
  · -- the sigma elsewhere
    rw [List.mem_singleton.1 h]
    decide +kernel
  · -- the two characters for a dotted capital I
    rcases List.mem_pair.1 h with rfl | rfl
    · decide +kernel
    · decide +kernel
  · rw [List.mem_singleton.1 h]
    exact isLower_lowerChar hdotted

theorem isLower_of_mem_lowerFrom (h : d ∈ lowerFrom before text) : IsLower d := by
  induction text generalizing before with
  | nil => cases h
  | cons c text ih =>
    rw [lowerFrom_cons] at h
    rcases List.mem_append.1 h with h | h
    · exact isLower_of_mem_lowerWithin h
    · exact ih h

end Characters

/-- Lowercase is reached in one step. -/
@[simp] theorem lower_lower (text : String) : lower (lower text) = lower text := by
  rw [← String.toList_inj, toList_lower (lower text), toList_lower text]
  exact lowerFrom_of_isLower fun c hc => isLower_of_mem_lowerFrom hc

end WebhookAuth.Text
