import WebhookAuth.Proofs.AsciiText
import WebhookAuth.Proofs.DayCount
import WebhookAuth.Proofs.Instant
import WebhookAuth.SignedHeaders

/-!
# Reading back what is written in ISO 8601

Numbers of fixed width are read back with whatever follows them (`IsoReader.number?_fixedDigits`),
and from them dates (`IsoReader.date?_dateText`), times of day (`IsoReader.clock?_clockText`) and
offsets of whole seconds (`IsoReader.offset?_isoText`). So a time is read back from its text
(`IsoReader.read?_isoText`), and as a timestamp it is read as its instant, also when a sender has
written it (`Timestamp.reads_back_iso`).
-/

namespace WebhookAuth

open WebhookAuth.Text

variable {count n : ℕ} {c : Char}

/-! ### Numbers of fixed width -/

/-- The digit of the last place of a number. -/
theorem isDigit_last (n : ℕ) :
    IsoReader.isDigit (Char.ofNat (48 + n % 10)).toUInt8 = true ∧
      (Char.ofNat (48 + n % 10)).toUInt8.toNat - 48 = n % 10 ∧
      (Char.ofNat (48 + n % 10)).isDigit = true := by
  have hdigit : ∀ d < 10, IsoReader.isDigit (Char.ofNat (48 + d)).toUInt8 = true ∧
      (Char.ofNat (48 + d)).toUInt8.toNat - 48 = d ∧ (Char.ofNat (48 + d)).isDigit = true := by
    decide
  exact hdigit _ (Nat.mod_lt n (by decide))

@[simp] theorem length_fixedDigits (count n : ℕ) : (fixedDigits count n).length = count := by
  induction count generalizing n with
  | zero => rfl
  | succ count ih => rw [fixedDigits, List.length_append, ih, List.length_singleton]

theorem isDigit_of_mem_fixedDigits (h : c ∈ fixedDigits count n) : c.isDigit = true := by
  induction count generalizing n with
  | zero => cases h
  | succ count ih =>
    rw [fixedDigits, List.mem_append, List.mem_singleton] at h
    rcases h with h | rfl
    · exact ih h
    · exact (isDigit_last n).2.2

namespace IsoReader

variable {rest text : Bytes} {acc more : ℕ}

/-- Digits are read on where others end. -/
theorem number?_add (acc count more : ℕ) (text : Bytes) :
    number? (count + more) acc text =
      (number? count acc text).bind fun found => number? more found.1 found.2 := by
  induction count generalizing acc text with
  | zero => rw [Nat.zero_add, number?, Option.bind_some]
  | succ count ih =>
    rw [Nat.succ_add, number?, number?]
    split_ifs
    · exact ih _ _
    · rfl

/-- A number of fixed width is read back, up to what its width cuts off. -/
theorem number?_fixedDigits (count acc n : ℕ) (rest : Bytes) :
    number? count acc (asciiBytes (fixedDigits count n) ++ rest) =
      some (acc * 10 ^ count + n % 10 ^ count, rest) := by
  induction count generalizing n rest with
  | zero => simp [fixedDigits, asciiBytes, number?, Nat.mod_one]
  | succ count ih =>
    obtain ⟨hdigit, hvalue, -⟩ := isDigit_last n
    rw [fixedDigits, asciiBytes_append, List.append_assoc, number?_add, ih (n / 10),
      Option.bind_some]
    show number? 1 _ ((Char.ofNat (48 + n % 10)).toUInt8 :: rest) = _
    rw [number?, front, List.headD_cons, if_pos hdigit, hvalue, List.tail_cons, number?]
    rw [pow_succ, Nat.mul_comm (10 ^ count) 10, Nat.mod_mul]
    congr 2
    ring

theorem number?_of_lt (count : ℕ) (h : n < 10 ^ count) (rest : Bytes) :
    number? count 0 (asciiBytes (fixedDigits count n) ++ rest) = some (n, rest) := by
  rw [number?_fixedDigits, Nat.zero_mul, Nat.zero_add, Nat.mod_eq_of_lt h]

/-- A number of some width starts with a digit. -/
theorem isDigit_front_fixedDigits (count n : ℕ) (rest : Bytes) :
    isDigit (front (asciiBytes (fixedDigits (count + 1) n) ++ rest)) = true := by
  induction count generalizing n rest with
  | zero => exact (isDigit_last n).1
  | succ count ih =>
    rw [fixedDigits, asciiBytes_append, List.append_assoc]
    exact ih (n / 10) _

/-- A digit is none of the marks between numbers. -/
theorem isByte_eq_false {b : UInt8} (h : isDigit b = true) (hc : c ∈ ['W', '-', ':']) :
    isByte b c = false := by
  unfold isDigit at h
  simp only [Bool.and_eq_true, decide_eq_true_eq] at h
  have hmarks : ∀ c ∈ ['W', '-', ':'], c.toNat < 48 ∨ 57 < c.toNat := by simp
  have hmark := hmarks c hc
  rw [isByte, beq_eq_false_iff_ne]
  omega

theorem byteAt_append {place : ℕ} (h : text.length = place) (rest : Bytes) :
    byteAt (text ++ rest) place = front rest := by
  unfold byteAt front
  rw [List.getD_eq_getElem?_getD, List.getElem?_append_right h.le, h, Nat.sub_self]
  cases rest <;> rfl

theorem dropWhile_isDigit (h : isDigit (front rest) = false) : rest.dropWhile isDigit = rest := by
  cases rest with
  | nil => rfl
  | cons b rest => exact List.dropWhile_cons_of_neg (by simpa [front] using h)

/-! ### Dates -/

/-- A date as text. -/
def dateText (d : Calendar.Date) : List Char :=
  fixedDigits 4 d.year ++ '-' :: (fixedDigits 2 d.month ++ '-' :: fixedDigits 2 d.day)

theorem asciiBytes_dateText (d : Calendar.Date) (rest : Bytes) :
    asciiBytes (dateText d) ++ rest =
      asciiBytes (fixedDigits 4 d.year) ++ '-'.toUInt8 :: (asciiBytes (fixedDigits 2 d.month) ++
        '-'.toUInt8 :: (asciiBytes (fixedDigits 2 d.day) ++ rest)) := by
  simp only [dateText, asciiBytes_append, asciiBytes_cons, List.append_assoc, List.cons_append]

theorem length_dateText (d : Calendar.Date) : (dateText d).length = 10 := by
  simp [dateText]

theorem dateEnd?_dateText (d : Calendar.Date) (rest : Bytes) :
    dateEnd? (asciiBytes (dateText d) ++ rest) = some 10 := by
  have hlong : (asciiBytes (dateText d) ++ rest).length ≠ 7 := by
    rw [List.length_append, length_asciiBytes, length_dateText]
    omega
  have hhyphen : isByte (byteAt (asciiBytes (dateText d) ++ rest) 4) '-' = true := by
    rw [asciiBytes_dateText, byteAt_append (by simp)]
    rfl
  have hmonth : isByte (byteAt (asciiBytes (dateText d) ++ rest) 5) 'W' = false := by
    rw [asciiBytes_dateText, List.append_cons, byteAt_append (by simp)]
    exact isByte_eq_false (isDigit_front_fixedDigits 1 d.month _) (by decide)
  unfold dateEnd?
  rw [if_neg hlong, if_pos hhyphen, hmonth, if_neg Bool.false_ne_true]

/-- A date is read back. -/
theorem date?_dateText {d : Calendar.Date} (hyear : d.year < 10000) (hmonth : d.month < 100)
    (hday : d.day < 100) (rest : Bytes) : date? 10 (asciiBytes (dateText d) ++ rest) = some d := by
  have hweek (rest : Bytes) :
      isByte (front (asciiBytes (fixedDigits 2 d.month) ++ rest)) 'W' = false :=
    isByte_eq_false (isDigit_front_fixedDigits 1 d.month _) (by decide)
  have hhyphen (rest : Bytes) : isByte (front ('-'.toUInt8 :: rest)) '-' = true := rfl
  rw [asciiBytes_dateText]
  unfold date?
  simp only [number?_of_lt 4 hyear, number?_of_lt 2 hmonth, number?_of_lt 2 hday,
    Option.bind_eq_bind, Option.bind_some, hhyphen, if_true, List.tail_cons, hweek,
    Bool.false_eq_true, if_false, hyphen?, Bool.not_true]
  rfl

/-! ### Times of day -/

section Fields

variable {length : ℕ} {colons : Option Bool} (hn : n < 100) (count : ℕ)

include hn

/-- A field with a colon behind it is read, unless it is the last. -/
theorem fields?_of_colon (hlength : 3 < length) (hcolons : colons.getD true = true)
    (rest : Bytes) :
    fields? (count + 1) colons length (asciiBytes (fixedDigits 2 n) ++ ':'.toUInt8 :: rest) =
      (fields? count (some true) (length - 3) rest).map fun found => (n :: found.1, found.2) := by
  have hcolon : isByte (front (':'.toUInt8 :: rest)) ':' = true := rfl
  rw [fields?]
  simp only [number?_of_lt 2 hn, Option.bind_eq_bind, Option.bind_some, hcolon, hcolons,
    Bool.and_true, if_true, List.tail_cons]
  rw [if_neg (by omega)]
  cases fields? count (some true) (length - 3) rest <;> rfl

/-- The last field is read. -/
theorem fields?_of_end (hlength : length ≤ 3) (rest : Bytes) :
    fields? (count + 1) colons length (asciiBytes (fixedDigits 2 n) ++ rest) =
      some ([n], .ended (front rest == 0)) := by
  rw [fields?]
  simp only [number?_of_lt 2 hn, Option.bind_eq_bind, Option.bind_some]
  rw [if_pos hlength]
  rfl

/-- A field with a point behind it is read, and then the fraction. -/
theorem fields?_of_point (hlength : 3 < length) (rest : Bytes) :
    fields? (count + 1) colons length (asciiBytes (fixedDigits 2 n) ++ '.'.toUInt8 :: rest) =
      some ([n], .fraction (length - 3) rest) := by
  have hcolon : isByte (front ('.'.toUInt8 :: rest)) ':' = false := rfl
  have hpoint : isByte (front ('.'.toUInt8 :: rest)) '.' = true := rfl
  rw [fields?]
  simp only [number?_of_lt 2 hn, Option.bind_eq_bind, Option.bind_some, hcolon, hpoint,
    Bool.and_false, Bool.false_eq_true, if_false, Bool.true_or, if_true, List.tail_cons]
  rw [if_neg (by omega)]
  rfl

end Fields

/-- A time of day as text. -/
def clockText (hour minute second micro : ℕ) : List Char :=
  fixedDigits 2 hour ++ ':' :: (fixedDigits 2 minute ++ ':' ::
    (fixedDigits 2 second ++ fractionText micro))

variable {hour minute second micro : ℕ}

theorem length_clockText :
    (clockText hour minute second micro).length = 8 + (fractionText micro).length := by
  simp [clockText]
  omega

/-- A time of day is read back up to the text behind it, which must not go on with a digit. -/
theorem clock?_clockText (hhour : hour < 100) (hminute : minute < 100) (hsecond : second < 100)
    (hmicro : micro < 1000000) (hrest : isDigit (front rest) = false) :
    clock? (clockText hour minute second micro).length
        (asciiBytes (clockText hour minute second micro) ++ rest) =
      some ⟨hour, minute, second, micro, front rest == 0⟩ := by
  rw [length_clockText]
  unfold clock?
  simp only [clockText, asciiBytes_append, asciiBytes_cons, List.append_assoc, List.cons_append]
  rw [fields?_of_colon hhour 2 (by omega) rfl, fields?_of_colon hminute 1 (by omega) rfl]
  by_cases hzero : micro = 0
  · subst hzero
    show (Option.map _ (Option.map _ (fields? 1 _ 2 (asciiBytes (fixedDigits 2 second) ++ rest)))
      >>= _) = _
    rw [fields?_of_end hsecond 0 (by omega)]
    rfl
  · have htext : fractionText micro = '.' :: fixedDigits 6 micro := if_neg hzero
    rw [htext, asciiBytes_cons, List.cons_append, fields?_of_point hsecond 0 (by simp)]
    simp only [Option.map_some, Option.bind_eq_bind, Option.bind_some, List.length_cons,
      length_fixedDigits]
    show (number? 6 0 _ >>= _) = _
    rw [number?_of_lt 6 hmicro]
    simp only [Option.bind_eq_bind, Option.bind_some, dropWhile_isDigit hrest]
    show some _ = _
    simp

/-- Hours and minutes are read back where nothing else is behind them. -/
theorem clock?_minutes (hhour : hour < 100) (hminute : minute < 100) :
    clock? 5 (asciiBytes (fixedDigits 2 hour ++ ':' :: fixedDigits 2 minute)) =
      some ⟨hour, minute, 0, 0, true⟩ := by
  have hend : fields? 2 (some true) 2 (asciiBytes (fixedDigits 2 minute) ++ []) =
      some ([minute], .ended true) := fields?_of_end hminute 1 (by omega) []
  rw [List.append_nil] at hend
  unfold clock?
  rw [asciiBytes_append, asciiBytes_cons, fields?_of_colon hhour 2 (by omega) rfl, hend]
  rfl

theorem isDigit_or_of_mem_fractionText (h : c ∈ fractionText micro) :
    c.isDigit = true ∨ c = '.' := by
  unfold fractionText at h
  split_ifs at h
  · cases h
  · rcases List.mem_cons.1 h with rfl | h
    · exact .inr rfl
    · exact .inl (isDigit_of_mem_fixedDigits h)

theorem isDigit_or_of_mem_clockText (h : c ∈ clockText hour minute second micro) :
    c.isDigit = true ∨ c = ':' ∨ c = '.' := by
  simp only [clockText, List.mem_append, List.mem_cons] at h
  rcases h with h | rfl | h | rfl | h | h
  · exact .inl (isDigit_of_mem_fixedDigits h)
  · exact .inr (.inl rfl)
  · exact .inl (isDigit_of_mem_fixedDigits h)
  · exact .inr (.inl rfl)
  · exact .inl (isDigit_of_mem_fixedDigits h)
  · exact (isDigit_or_of_mem_fractionText h).imp_right .inr

/-! ### Offsets -/

/-- No byte of a time of day starts an offset. -/
theorem startsOffset_of_mem_clockText {b : UInt8}
    (h : b ∈ asciiBytes (clockText hour minute second micro)) : startsOffset b = false := by
  have hascii : ∀ c : Char, c.toNat < 128 → c.isDigit = true → startsOffset c.toUInt8 = false :=
    Text.forall_ascii (by decide +kernel)
  obtain ⟨c, hc, rfl⟩ := List.mem_map.1 h
  rcases isDigit_or_of_mem_clockText hc with hdigit | rfl | rfl
  · exact hascii c ((Text.toNat_of_isDigit hdigit).2.trans_lt (by decide)) hdigit
  · rfl
  · rfl

/-- The text of an offset of whole seconds is a sign and a time of day. -/
theorem exists_isoText {o : Offset} (h : (secondMicros : ℤ) ∣ o.micros) :
    ∃ seconds text, seconds * secondMicros = o.micros.natAbs ∧
      o.isoText = (if o.micros < 0 then '-' else '+') :: text ∧
      clock? (asciiBytes text).length (asciiBytes text) =
        some ⟨seconds / 3600, seconds / 60 % 60, seconds % 60, 0, true⟩ := by
  have hwhole : secondMicros ∣ o.micros.natAbs := Int.natCast_dvd.1 h
  have hmicro : o.micros.natAbs % secondMicros = 0 := Nat.mod_eq_zero_of_dvd hwhole
  set seconds := o.micros.natAbs / secondMicros with hseconds
  have hlt : seconds < 86400 := (Nat.div_lt_iff_lt_mul (by decide)).2 o.bounded
  refine ⟨seconds, _, Nat.div_mul_cancel hwhole, rfl, ?_⟩
  rw [hmicro, ← hseconds]
  by_cases hminutes : seconds % 60 = 0
  · rw [if_pos ⟨hminutes, rfl⟩, List.append_nil, hminutes, length_asciiBytes]
    exact clock?_minutes (by omega) (by omega)
  · have hclock : clock? (clockText (seconds / 3600) (seconds / 60 % 60) (seconds % 60) 0).length
        (asciiBytes (clockText (seconds / 3600) (seconds / 60 % 60) (seconds % 60) 0) ++ []) = _ :=
      clock?_clockText (by omega) (by omega) (by omega) (by decide) rfl
    rw [List.append_nil] at hclock
    rw [if_neg fun hnone => hminutes hnone.1, length_asciiBytes]
    simp only [clockText, List.append_assoc, List.cons_append] at hclock ⊢
    exact hclock

/-- An offset of whole seconds is read back. -/
theorem offset?_isoText {o : Offset} (h : (secondMicros : ℤ) ∣ o.micros) :
    offset? (asciiBytes o.isoText) = some o := by
  obtain ⟨seconds, text, hseconds, htext, hclock⟩ := exists_isoText h
  have hsign : isByte (if o.micros < 0 then '-' else '+').toUInt8 'Z' = false := by
    split_ifs <;> rfl
  rw [htext, asciiBytes_cons]
  unfold offset?
  simp only [front, List.headD_cons, hsign, Bool.false_eq_true, if_false, List.tail_cons, hclock,
    Option.bind_eq_bind, Option.bind_some]
  have hsum : 3600 * (seconds / 3600) + 60 * (seconds / 60 % 60) + seconds % 60 = seconds := by
    omega
  have hsize : (if seconds = 0 then 0 else ((seconds * secondMicros + 0 : ℕ) : ℤ)) =
      o.micros.natAbs := by
    rw [Nat.add_zero, hseconds]
    split_ifs with hzero
    · rw [hzero, Nat.zero_mul] at hseconds
      rw [← hseconds]
      rfl
    · rfl
  have hsigned : (if isByte (if o.micros < 0 then '-' else '+').toUInt8 '-' = true then
      -(o.micros.natAbs : ℤ) else o.micros.natAbs) = o.micros := by
    by_cases hneg : o.micros < 0
    · have hminus : isByte '-'.toUInt8 '-' = true := by decide
      rw [if_pos hneg, if_pos hminus]
      omega
    · have hplus : ¬isByte '+'.toUInt8 '-' = true := by decide
      rw [if_neg hneg, if_neg hplus]
      omega
  rw [hsum, hsize, hsigned]
  show Offset.ofMicros? o.micros = some o
  rw [Offset.ofMicros?, dif_pos o.bounded]

/-! ### Times -/

/-- No digit goes on with the text of an offset, and the offset starts right there. -/
theorem zone_isoText (offset : Option Offset) :
    isDigit (front (asciiBytes (offset.elim [] Offset.isoText))) = false ∧
      (asciiBytes (offset.elim [] Offset.isoText)).dropWhile (!startsOffset ·) =
        asciiBytes (offset.elim [] Offset.isoText) := by
  cases offset with
  | none => exact ⟨rfl, rfl⟩
  | some o =>
    obtain ⟨sign, text, htext, hsign⟩ : ∃ sign text, o.isoText = sign :: text ∧
        (sign = '-' ∨ sign = '+') := ⟨_, _, rfl, ite_eq_or_eq _ _ _⟩
    rw [Option.elim_some, htext, asciiBytes_cons]
    rcases hsign with rfl | rfl
    · exact ⟨rfl, List.dropWhile_cons_of_neg (by decide)⟩
    · exact ⟨rfl, List.dropWhile_cons_of_neg (by decide)⟩

/-- A time of day is read back with the offset behind it, if there is one. -/
theorem time?_isoText {offset : Option Offset} (hhour : hour < 100) (hminute : minute < 100)
    (hsecond : second < 100) (hmicro : micro < 1000000)
    (h : ∀ o ∈ offset, (secondMicros : ℤ) ∣ o.micros) :
    ∃ closed, time? (asciiBytes (clockText hour minute second micro ++
        offset.elim [] Offset.isoText)) =
      some (⟨hour, minute, second, micro, closed⟩, offset) := by
  obtain ⟨hdigit, hzone⟩ := zone_isoText offset
  have hfront : ∀ b ∈ asciiBytes (clockText hour minute second micro),
      (!startsOffset b) = true := fun b hb => by
    rw [startsOffset_of_mem_clockText hb]
    rfl
  have hnonempty (rest : Bytes) :
      (asciiBytes (clockText hour minute second micro) ++ rest).isEmpty = false := by
    rw [List.isEmpty_eq_false_iff, ← List.length_pos_iff, List.length_append, length_asciiBytes,
      length_clockText]
    omega
  unfold time?
  rw [asciiBytes_append, hnonempty]
  dsimp only
  rw [List.dropWhile_append_of_pos hfront, hzone, List.length_append, Nat.add_sub_cancel,
    length_asciiBytes, clock?_clockText hhour hminute hsecond hmicro hdigit]
  cases offset with
  | none => exact ⟨true, rfl⟩
  | some o =>
    have hnonempty' : (asciiBytes o.isoText).isEmpty = false := rfl
    rw [Option.elim_some, hnonempty', offset?_isoText (h o rfl)]
    exact ⟨_, rfl⟩

end IsoReader

theorem WallReading.isoText_eq (r : WallReading) :
    r.isoText = IsoReader.dateText r.date ++
      'T' :: IsoReader.clockText r.hour r.minute r.second r.micro := by
  simp only [isoText, IsoReader.dateText, IsoReader.clockText, List.append_assoc, List.cons_append]

/-- The fields of a reading fit the widths in which they are written. -/
theorem WallReading.lt_of_isValid {r : WallReading} (h : r.isValid = true) :
    (r.date.year < 10000 ∧ r.date.month < 100 ∧ r.date.day < 100) ∧
      r.hour < 100 ∧ r.minute < 100 ∧ r.second < 100 ∧ r.micro < 1000000 := by
  unfold isValid Calendar.Date.isValid secondMicros at h
  cases hlength : (Calendar.monthLengths r.date.year)[r.date.month - 1]? with
  | none => rw [hlength] at h; simp at h
  | some length =>
    rw [hlength] at h
    simp only [Bool.and_eq_true, decide_eq_true_eq] at h
    have hmonth : r.date.month - 1 < 12 := (List.getElem?_eq_some_iff.1 hlength).1
    have hday : length ≤ 31 := by
      have hlengths : ∀ length ∈ Calendar.monthLengths r.date.year, length ≤ 31 := by
        unfold Calendar.monthLengths
        split_ifs <;> decide
      exact hlengths length (List.mem_of_getElem? hlength)
    omega

namespace IsoReader

/-- A time with an offset of whole seconds, or none, is read back. -/
theorem read?_isoText {t : DateTime} (h : ∀ o ∈ t.offset, (secondMicros : ℤ) ∣ o.micros) :
    read? (asciiBytes t.isoText) = some t := by
  have hvalid := WallReading.isValid_ofMicros t.wall_lt
  have hmicros := WallReading.micros_ofMicros t.wall
  unfold DateTime.isoText
  generalize WallReading.ofMicros t.wall = r at hvalid hmicros
  obtain ⟨⟨hyear, hmonth, hday⟩, hhour, hminute, hsecond, hmicro⟩ :=
    WallReading.lt_of_isValid hvalid
  obtain ⟨closed, htime⟩ := time?_isoText hhour hminute hsecond hmicro h
  have hdrop (rest : Bytes) : (asciiBytes (dateText r.date) ++ rest).drop 10 = rest :=
    List.drop_left' (by rw [length_asciiBytes, length_dateText])
  have hseparator (rest : Bytes) : charLength ('T'.toUInt8 :: rest) = 1 := rfl
  rw [r.isoText_eq, List.append_assoc, List.cons_append, asciiBytes_append]
  unfold read?
  rw [dateEnd?_dateText]
  simp only [Option.bind_eq_bind, Option.bind_some, date?_dateText hyear hmonth hday, hdrop]
  rw [asciiBytes_cons, List.isEmpty_cons, if_neg Bool.false_ne_true, hseparator, List.drop_one,
    List.tail_cons, htime, Option.bind_some]
  show r.toDateTime? t.offset = some t
  rw [WallReading.toDateTime?, if_pos hvalid, hmicros]
  exact dif_pos ⟨Int.natCast_nonneg _, t.wall_lt⟩

end IsoReader

/-! ### Timestamps -/

/-- The character is one of those that times in ISO 8601 are written with. -/
def IsIsoChar (c : Char) : Prop := c.isDigit = true ∨ c ∈ ['-', '+', ':', '.', 'T']

theorem IsIsoChar.toNat_lt (h : IsIsoChar c) : c.toNat < 128 := by
  rcases h with hdigit | hmark
  · exact (Text.toNat_of_isDigit hdigit).2.trans_lt (by decide)
  · have hmarks : ∀ c ∈ ['-', '+', ':', '.', 'T'], c.toNat < 128 := by simp
    exact hmarks c hmark

theorem IsIsoChar.isBlank_eq (h : IsIsoChar c) : Text.isBlank c = false := by
  rcases h with hdigit | hmark
  · exact Text.isBlank_of_isDigit hdigit
  · have hmarks : ∀ c ∈ ['-', '+', ':', '.', 'T'], Text.isBlank c = false := by
      simp [Text.isBlank]
    exact hmarks c hmark

theorem isIsoChar_of_mem_fixedDigits (h : c ∈ fixedDigits count n) : IsIsoChar c :=
  .inl (isDigit_of_mem_fixedDigits h)

theorem isIsoChar_of_mem_fractionText (h : c ∈ fractionText n) : IsIsoChar c := by
  rcases IsoReader.isDigit_or_of_mem_fractionText h with h | rfl
  · exact .inl h
  · exact .inr (by decide)

theorem Offset.isIsoChar_of_mem {o : Offset} (h : c ∈ o.isoText) : IsIsoChar c := by
  simp only [isoText, List.mem_cons, List.mem_append] at h
  rcases h with rfl | (h | rfl | h) | h
  · split_ifs <;> exact .inr (by decide)
  · exact isIsoChar_of_mem_fixedDigits h
  · exact .inr (by decide)
  · exact isIsoChar_of_mem_fixedDigits h
  · split_ifs at h
    · cases h
    · simp only [List.cons_append, List.mem_cons, List.mem_append] at h
      rcases h with rfl | h | h
      · exact .inr (by decide)
      · exact isIsoChar_of_mem_fixedDigits h
      · exact isIsoChar_of_mem_fractionText h

theorem WallReading.isIsoChar_of_mem {r : WallReading} (h : c ∈ r.isoText) : IsIsoChar c := by
  simp only [isoText_eq, IsoReader.dateText, List.mem_append, List.mem_cons] at h
  rcases h with (h | rfl | h | rfl | h) | rfl | h
  · exact isIsoChar_of_mem_fixedDigits h
  · exact .inr (by decide)
  · exact isIsoChar_of_mem_fixedDigits h
  · exact .inr (by decide)
  · exact isIsoChar_of_mem_fixedDigits h
  · exact .inr (by decide)
  · rcases IsoReader.isDigit_or_of_mem_clockText h with h | rfl | rfl
    · exact .inl h
    · exact .inr (by decide)
    · exact .inr (by decide)

theorem DateTime.isIsoChar_of_mem {t : DateTime} (h : c ∈ t.isoText) : IsIsoChar c := by
  rcases List.mem_append.1 h with h | h
  · exact WallReading.isIsoChar_of_mem h
  · cases hoffset : t.offset with
    | none => rw [hoffset] at h; cases h
    | some o => rw [hoffset] at h; exact Offset.isIsoChar_of_mem h

/-- A time in ISO 8601 is no number. -/
theorem DateTime.plain?_isoText (t : DateTime) : Numeral.plain? t.isoText = none := by
  have hseparator : 'T' ∈ t.isoText := by
    simp [isoText, WallReading.isoText_eq]
  cases hplain : Numeral.plain? t.isoText with
  | none => rfl
  | some w =>
    obtain ⟨⟨sign, digits, htext, hsign, hdigits, -⟩, -⟩ :=
      (Numeral.exists_plain?_iff t.isoText w.digits.length).1 ⟨w, hplain, rfl⟩
    rw [htext] at hseparator
    rcases List.mem_append.1 hseparator with hmem | hmem
    · have hsigns : ∀ sign ∈ [[], ['+'], ['-']], 'T' ∉ sign := by decide
      exact absurd hmem (hsigns sign hsign)
    · exact absurd (hdigits 'T' hmem) (by decide)

theorem DateTime.instant_assumeUtc (t : DateTime) : t.assumeUtc.instant = t.instant := by
  unfold assumeUtc instant
  cases h : t.offset with
  | none => simp [Offset.utc]
  | some o => simp [h]

namespace Timestamp

variable {t : DateTime}

/-- A time in ISO 8601 with blank space around is read as its instant. -/
theorem readsAs_iso (h : ∀ o ∈ t.offset, (secondMicros : ℤ) ∣ o.micros) {front back : String}
    (hfront : Text.isBlankText front = true) (hback : Text.isBlankText back = true) :
    ReadsAs (front ++ t.iso ++ back) t.instant := by
  have hstrip : strip (front ++ t.iso ++ back).toList = t.isoText := by
    rw [String.toList_append, String.toList_append, DateTime.iso, String.toList_ofList]
    exact trimBy_append (List.all_eq_true.1 hfront)
      (fun c hc => (DateTime.isIsoChar_of_mem hc).isBlank_eq) (List.all_eq_true.1 hback)
  refine readsAs_of_read_eq ?_
  unfold read
  dsimp only
  rw [hstrip, t.plain?_isoText]
  dsimp only
  rw [ofIso, flatMap_utf8EncodeChar_of_ascii fun c hc => (DateTime.isIsoChar_of_mem hc).toNat_lt,
    IsoReader.read?_isoText h]
  dsimp only
  rw [DateTime.toUtc, t.instant_assumeUtc]

end Timestamp

namespace SignedHeaders

variable {t : DateTime} {names : HeaderNames} {timestamp signature nonce : String}

/-- A send time on the calendar of UTC is written there. -/
theorem exists_timestampText_iso (h : DateTime.OnCalendar t.instant) :
    ∃ u : DateTime, timestampText .iso t = .ok u.iso ∧ u.offset = some .utc ∧
      u.instant = t.instant := by
  obtain ⟨u, hu, hutc, hinstant⟩ := DateTime.exists_ofInstant h
  refine ⟨u, ?_, hutc, hinstant⟩
  rw [timestampText, DateTime.toUtc, t.instant_assumeUtc, hu]
  rfl

theorem timestampText_iso_eq_error (h : ¬DateTime.OnCalendar t.instant) :
    timestampText .iso t = .error .dateOutOfRange := by
  rw [timestampText, DateTime.toUtc, t.instant_assumeUtc, DateTime.ofInstant_eq_error h]
  rfl

/-- The timestamp is found under its own name, if the other headers have other names. -/
theorem get?_timestamp_ofAssignments (hnonce : names.timestamp ≠ names.nonce)
    (hsignature : names.timestamp ≠ names.signature) :
    (Fields.ofAssignments [(names.timestamp, timestamp), (names.nonce, nonce),
      (names.signature, signature)]).get? names.timestamp = some timestamp := by
  show (((Fields.set [] names.timestamp timestamp).set names.nonce nonce).set names.signature
    signature).get? names.timestamp = some timestamp
  rw [Fields.get?_set_of_ne _ _ hsignature, Fields.get?_set_of_ne _ _ hnonce, Fields.get?_set_self]

end SignedHeaders

namespace Timestamp

/-- What is written in ISO 8601 is read back. A time with an offset of whole seconds, or without
one, which is then read as UTC, is read as its instant, with any blank space around its text, and
refused if that instant lies outside the years 1 to 9999. So the timestamp that a sender writes in
ISO 8601 is read as the very instant of the send time, whatever the offset of that. -/
theorem reads_back_iso (t : DateTime) :
    ((∀ o ∈ t.offset, (secondMicros : ℤ) ∣ o.micros) →
        ∀ front back : String, Text.isBlankText front = true → Text.isBlankText back = true →
          ReadsAs (front ++ t.iso ++ back) t.instant) ∧
      ∀ (secret body : Bytes) (nonce : String) (names : HeaderNames),
        names.timestamp ≠ names.nonce → names.timestamp ≠ names.signature →
          (DateTime.OnCalendar t.instant →
              ∃ fields timestamp u,
                SignedHeaders.sign secret body t nonce names .iso = .ok fields ∧
                  fields.get? names.timestamp = some timestamp ∧ read timestamp = .ok u ∧
                  u.offset = some .utc ∧ u.instant = t.instant) ∧
            (¬DateTime.OnCalendar t.instant →
              SignedHeaders.sign secret body t nonce names .iso = .error .dateOutOfRange) := by
  refine ⟨fun h front back => readsAs_iso h, fun secret body nonce names hnonce hsignature =>
    ⟨fun hon => ?_, fun hoff => ?_⟩⟩
  · obtain ⟨u, hu, hutc, hinstant⟩ := SignedHeaders.exists_timestampText_iso hon
    have hwhole : ∀ o ∈ u.offset, (secondMicros : ℤ) ∣ o.micros := by
      rw [hutc]
      rintro o ⟨⟩
      exact dvd_zero _
    have hreads : ReadsAs u.iso u.instant := by
      simpa using readsAs_iso hwhole Text.isBlankText_empty Text.isBlankText_empty
    obtain ⟨v, hv, hvutc, hvinstant⟩ := hreads.1 (hinstant.symm ▸ hon)
    obtain ⟨signature, hsign⟩ : ∃ signature,
        SignedHeaders.sign secret body t nonce names .iso =
          .ok (Fields.ofAssignments [(names.timestamp, u.iso), (names.nonce, nonce),
            (names.signature, signature)]) := ⟨_, by rw [SignedHeaders.sign, hu]; rfl⟩
    exact ⟨_, u.iso, v, hsign, SignedHeaders.get?_timestamp_ofAssignments hnonce hsignature, hv,
      hvutc, hvinstant.trans hinstant⟩
  · rw [SignedHeaders.sign, SignedHeaders.timestampText_iso_eq_error hoff]
    rfl

/-- The last second of a leap day on a clock behind UTC, which shows seconds in its offset. -/
def sampleEvening : DateTime := ⟨63844847999000001, some ⟨-19807000000, by decide⟩, by decide⟩

/-- The first second of year 1 on a clock ahead of UTC. -/
def sampleDawn : DateTime := ⟨0, some ⟨1000000, by decide⟩, by decide⟩

theorem reads_back_iso_samples :
    sampleEvening.iso = "2024-02-29T23:59:59.000001-05:30:07" ∧
      (∃ u, read "\u20032024-02-29T23:59:59.000001-05:30:07\r\n" = .ok u ∧
        u.offset = some .utc ∧ u.instant = 1709271006000001) ∧
      read "0001-01-01T00:00:00+00:00:01" = .error .outOfRange ∧
      ∃ fields timestamp u,
        SignedHeaders.sign [107] [120] sampleEvening "n" {} .iso = .ok fields ∧
          fields.get? "X-Swish-Timestamp" = some timestamp ∧ read timestamp = .ok u ∧
          u.offset = some .utc ∧ u.instant = 1709271006000001 := by
  have hpadded : "\u2003" ++ sampleEvening.iso ++ "\r\n" =
      "\u20032024-02-29T23:59:59.000001-05:30:07\r\n" := by decide +kernel
  have hdawn : "" ++ sampleDawn.iso ++ "" = "0001-01-01T00:00:00+00:00:01" := by decide +kernel
  have hwhole : ∀ t ∈ [sampleEvening, sampleDawn], ∀ o ∈ t.offset,
      (secondMicros : ℤ) ∣ o.micros := by decide
  have hinstant : sampleEvening.instant = 1709271006000001 := by decide
  have hon : DateTime.OnCalendar sampleEvening.instant := by decide
  obtain ⟨hreads, hsigned⟩ := reads_back_iso sampleEvening
  obtain ⟨hreadsDawn, -⟩ := reads_back_iso sampleDawn
  refine ⟨by decide +kernel, ?_, ?_, ?_⟩
  · rw [← hpadded, ← hinstant]
    exact (hreads (hwhole _ (by simp)) "\u2003" "\r\n" (by decide) (by decide)).1 hon
  · rw [← hdawn]
    exact (hreadsDawn (hwhole _ (by simp)) "" "" rfl rfl).2 (by decide)
  · rw [← hinstant]
    exact (hsigned [107] [120] "n" {} (by decide) (by decide)).1 hon

end Timestamp

end WebhookAuth
