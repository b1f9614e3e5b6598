import SqlAccess.Calendar.Text
import SqlAccess.Proofs.Calendar.Shift
import SqlAccess.Proofs.Text.ReadBack

/-!
# Dates and times are read back

The text of a date, of a time and of a date-time is read as what it was written
from: years of any length and sign, fractions of no, three, six or nine digits,
and leap seconds, if they are where a leap second may be, at the end of a minute.

Each part is read up to where it ends, with the rest of the text left over.  Two
digits end after the second one, whatever comes next.  A long year and a
fraction end where no digit comes next, so what follows them has a say.

* `Calendar.readNumber?_padded`, `readYear?_yearText`, `readFraction?_fractionText`
  — the parts;
* `Calendar.readDate?_text`, `readTime?_text` — dates and times before a rest;
* `Date.ofText?_text`, `Time.ofText?_text`, `DateTime.ofText?_text` — whole texts.
-/

namespace SqlAccess

open Text

/-- Leap seconds come at the end of a minute. -/
def Time.LeapsAtEnd (t : Time) : Prop := t.isLeapSecond = true → t.second = 59

namespace Calendar

/-! ## Parts -/

/-- A padded number starts with a digit. -/
theorem exists_padded_eq_cons {width : Nat} (hwidth : 0 < width) (n : Nat) :
    ∃ c ds, padded width n = c :: ds ∧ c.isDigit = true := by
  have hpos : 0 < (padded width n).length := Nat.lt_of_lt_of_le hwidth (le_length_padded width n)
  obtain ⟨c, ds, heq⟩ := List.exists_cons_of_length_pos hpos
  exact ⟨c, ds, heq, isDigit_of_mem_padded (heq ▸ List.mem_cons_self)⟩

theorem padded_ne_nil {width : Nat} (hwidth : 0 < width) (n : Nat) : padded width n ≠ [] := by
  obtain ⟨c, ds, heq, -⟩ := exists_padded_eq_cons hwidth n
  rw [heq]
  exact List.cons_ne_nil c ds

/-- **A number that fills its digits is read back**, whatever follows it. -/
theorem readNumber?_padded {width n : Nat} (hwidth : 0 < width) (h : n < 10 ^ width)
    (rest : List Char) : readNumber? width (padded width n ++ rest) = some (n, rest) := by
  have hlength := length_padded hwidth h
  have htake : takeDigitsUpTo (padded width n).length (padded width n ++ rest) = _ :=
    takeDigitsUpTo_append (fun c hc => isDigit_of_mem_padded hc) rest
  rw [hlength] at htake
  obtain ⟨c, ds, heq, hc⟩ := exists_padded_eq_cons hwidth n
  have htrim : trimStart (padded width n ++ rest) = padded width n ++ rest := by
    apply trimStart_of_head
    rw [heq]
    rintro _ ⟨⟩
    exact isBlank_of_isDigit hc
  have hne := padded_ne_nil hwidth n
  simp only [readNumber?, htrim, htake, if_neg hne, digitsValue_padded]

/-- A number that fills its digits is read where just so many are asked for, too. -/
theorem readExactly?_padded {width n : Nat} (hwidth : 0 < width) (h : n < 10 ^ width)
    (rest : List Char) : readExactly? width (padded width n ++ rest) = some (n, rest) := by
  have hlength := length_padded hwidth h
  have htake : takeDigitsUpTo (padded width n).length (padded width n ++ rest) = _ :=
    takeDigitsUpTo_append (fun c hc => isDigit_of_mem_padded hc) rest
  rw [hlength] at htake
  simp only [readExactly?, htake, hlength, if_true, digitsValue_padded]

/-- A text that starts with a digit holds a year of up to four digits. -/
theorem readYear?_of_isDigit {c : Char} (hc : c.isDigit = true) (rest : List Char) :
    readYear? (c :: rest) = (readNumber? 4 (c :: rest)).map fun x => ((x.1 : Int), x.2) := by
  have htrim : trimStart (c :: rest) = c :: rest := by
    apply trimStart_of_head
    rintro _ ⟨⟩
    exact isBlank_of_isDigit hc
  unfold readYear?
  rw [htrim]
  split
  · next heq =>
      cases heq
      exact absurd hc (by decide)
  · next heq =>
      cases heq
      exact absurd hc (by decide)
  · rfl

/-- **A year is read back**, with a sign or without. -/
theorem readYear?_yearText (year : Int) {rest : List Char}
    (hrest : ∀ c ∈ rest.head?, c.isDigit = false) :
    readYear? (yearText year ++ rest) = some (year, rest) := by
  unfold yearText
  by_cases hyear : 0 ≤ year ∧ year ≤ 9999
  · obtain ⟨hlow, hhigh⟩ := hyear
    have hfits : year.toNat < 10 ^ 4 := by omega
    have hread := readNumber?_padded (by decide) hfits rest
    obtain ⟨c, ds, heq, hc⟩ := exists_padded_eq_cons (Nat.zero_lt_succ 3) year.toNat
    rw [heq, List.cons_append] at hread
    rw [if_pos ⟨hlow, hhigh⟩, heq, List.cons_append, readYear?_of_isDigit hc, hread,
      Option.map_some, Int.toNat_of_nonneg hlow]
  · -- The sign says that the digits go on as long as they may.
    have htake : takeDigits (padded 4 year.natAbs ++ rest) = _ :=
      takeDigits_append (fun c hc => isDigit_of_mem_padded hc) hrest
    have hne : padded 4 year.natAbs ≠ [] := padded_ne_nil (by decide) _
    rw [if_neg hyear, List.cons_append]
    by_cases hneg : year < 0
    · have htrim : trimStart ('-' :: (padded 4 year.natAbs ++ rest)) =
          '-' :: (padded 4 year.natAbs ++ rest) := rfl
      have hvalue : -((year.natAbs : Nat) : Int) = year := by omega
      simp only [if_pos hneg, readYear?, htrim, htake, if_neg hne, digitsValue_padded, signed,
        if_true, hvalue]
    · have htrim : trimStart ('+' :: (padded 4 year.natAbs ++ rest)) =
          '+' :: (padded 4 year.natAbs ++ rest) := rfl
      have hvalue : ((year.natAbs : Nat) : Int) = year := by omega
      simp only [if_neg hneg, readYear?, htrim, htake, if_neg hne, digitsValue_padded, signed,
        Bool.false_eq_true, if_false, hvalue]

/-- The digits behind the point are read as the first ones of nine. -/
theorem readFraction?_padded {width n : Nat} (hwidth : 0 < width ∧ width ≤ 9)
    (h : n < 10 ^ width) {rest : List Char} (hrest : ∀ c ∈ rest.head?, c.isDigit = false) :
    readFraction? ('.' :: (padded width n ++ rest)) = some (n * 10 ^ (9 - width), rest) := by
  have hlength := length_padded hwidth.1 h
  have htake : takeDigits (padded width n ++ rest) = _ :=
    takeDigits_append (fun c hc => isDigit_of_mem_padded hc) hrest
  have hne := padded_ne_nil hwidth.1 n
  have hkept : (padded width n).take 9 = padded width n := List.take_of_length_le (by omega)
  simp only [readFraction?, htake, if_neg hne, hkept, hlength, digitsValue_padded]

/-- **A fraction of a second is read back**, where neither a digit nor a point
follows it. -/
theorem readFraction?_fractionText {nanos : Nat} (h : nanos < nanosPerSecond) {rest : List Char}
    (hrest : ∀ c ∈ rest.head?, c.isDigit = false ∧ c ≠ '.') :
    readFraction? (fractionText nanos ++ rest) = some (nanos, rest) := by
  have hdigit : ∀ c ∈ rest.head?, c.isDigit = false := fun c hc => (hrest c hc).1
  unfold nanosPerSecond at h
  unfold fractionText
  split
  · next hzero =>
      subst hzero
      rw [List.nil_append]
      unfold readFraction?
      split
      · exact absurd rfl (hrest '.' rfl).2
      · rfl
  · split
    · rw [List.cons_append, readFraction?_padded (by decide) (by omega) hdigit]
      congr 2
      omega
    · split
      · rw [List.cons_append, readFraction?_padded (by decide) (by omega) hdigit]
        congr 2
        omega
      · rw [List.cons_append, readFraction?_padded (by decide) (by omega) hdigit, Nat.sub_self,
          Nat.pow_zero, Nat.mul_one]

/-- A time is the one with its parts, the leap second being second 60. -/
theorem timeOf?_self {t : Time} (h : t.LeapsAtEnd) :
    timeOf? t.hour t.minute (t.second + t.nanosecond / nanosPerSecond)
      (t.nanosecond % nanosPerSecond) = some t := by
  obtain ⟨hour, minute, second, nano, hhour, hminute, hsecond, hnano⟩ := t
  simp only [Time.LeapsAtEnd, Time.isLeapSecond, decide_eq_true_eq] at h ⊢
  by_cases hleap : nanosPerSecond ≤ nano
  · obtain rfl : second = 59 := h hleap
    have hsplit : 59 + nano / nanosPerSecond = 60 ∧
        nanosPerSecond + nano % nanosPerSecond = nano := by
      unfold nanosPerSecond at hleap ⊢
      omega
    rw [timeOf?, if_pos hsplit.1, hsplit.2, Time.make?, dif_pos ⟨hhour, hminute, hsecond, hnano⟩,
      if_pos (Or.inr rfl)]
  · have hwhole : second + nano / nanosPerSecond = second ∧ nano % nanosPerSecond = nano := by
      unfold nanosPerSecond at hleap ⊢
      omega
    rw [hwhole.1, hwhole.2, timeOf?, if_neg (by omega), Time.make?,
      dif_pos ⟨hhour, hminute, hsecond, hnano⟩, if_pos (Or.inl (by omega))]

/-! ## Dates and times -/

/-- **A date is read back**, whatever follows it. -/
theorem readDate?_text (d : Date) (rest : List Char) :
    readDate? (d.text ++ rest) = some (d, rest) := by
  have hmonth : d.month < 10 ^ 2 := Nat.lt_of_le_of_lt d.month_le (by decide)
  have hday : d.day < 10 ^ 2 := Nat.lt_of_le_of_lt d.day_le (by decide)
  have hyear (after : List Char) :
      readYear? (yearText d.year ++ '-' :: after) = some (d.year, '-' :: after) := by
    apply readYear?_yearText
    rintro _ ⟨⟩
    rfl
  simp only [Date.text, List.append_assoc, List.cons_append, readDate?, hyear, expect?, if_true,
    Option.bind_eq_bind, Option.bind_some, readNumber?_padded (by decide : 0 < 2) hmonth,
    readNumber?_padded (by decide : 0 < 2) hday, Date.make?_self]
  rfl

/-- **A time is read back**, where neither a digit nor a point follows it. -/
theorem readTime?_text {t : Time} (h : t.LeapsAtEnd) {rest : List Char}
    (hrest : ∀ c ∈ rest.head?, c.isDigit = false ∧ c ≠ '.') :
    readTime? (t.text ++ rest) = some (t, rest) := by
  have hhour : t.hour < 10 ^ 2 := by
    have hlt := t.hour_lt
    omega
  have hminute : t.minute < 10 ^ 2 := by
    have hlt := t.minute_lt
    omega
  have hsecond : t.second + t.nanosecond / nanosPerSecond < 10 ^ 2 := by
    have hlt := t.second_lt
    have hnano := t.nanosecond_lt
    unfold nanosPerSecond
    omega
  have hfraction : readFraction? (fractionText (t.nanosecond % nanosPerSecond) ++ rest) = _ :=
    readFraction?_fractionText (Nat.mod_lt _ (by decide)) hrest
  simp only [Time.text, List.append_assoc, List.cons_append, readTime?, expect?, if_true,
    Option.bind_eq_bind, Option.bind_some, readNumber?_padded (by decide : 0 < 2) hhour,
    readNumber?_padded (by decide : 0 < 2) hminute, readNumber?_padded (by decide : 0 < 2) hsecond,
    hfraction, timeOf?_self h]
  rfl

end Calendar

open Calendar

/-! ## Whole texts -/

/-- **A date is read back from its text.** -/
theorem Date.ofText?_text (d : Date) : ofText? d.text = some d := by
  have hread := readDate?_text d []
  rw [List.append_nil] at hread
  rw [ofText?, hread]
  rfl

/-- **A time is read back from its text.** -/
theorem Time.ofText?_text {t : Time} (h : t.LeapsAtEnd) : ofText? t.text = some t := by
  have hread : readTime? (t.text ++ []) = some (t, []) := readTime?_text h nofun
  rw [List.append_nil] at hread
  rw [ofText?, hread]
  rfl

/-! ### Blanks -/

/-- A date is written in digits and signs. -/
theorem Date.isBlank_of_mem_text {d : Date} {c : Char} (h : c ∈ d.text) : isBlank c = false := by
  have hpadded {width n : Nat} (hc : c ∈ padded width n) : isBlank c = false :=
    isBlank_of_isDigit (isDigit_of_mem_padded hc)
  have hyear (hc : c ∈ yearText d.year) : isBlank c = false := by
    unfold yearText at hc
    split at hc
    · exact hpadded hc
    · rcases List.mem_cons.mp hc with rfl | hc
      · split <;> decide
      · exact hpadded hc
  simp only [Date.text, List.mem_append, List.mem_cons] at h
  rcases h with (hc | rfl | hc) | rfl | hc
  · exact hyear hc
  · rfl
  · exact hpadded hc
  · rfl
  · exact hpadded hc

/-- A time is written in digits, colons and a point. -/
theorem Time.isBlank_of_mem_text {t : Time} {c : Char} (h : c ∈ t.text) : isBlank c = false := by
  have hpadded {width n : Nat} (hc : c ∈ padded width n) : isBlank c = false :=
    isBlank_of_isDigit (isDigit_of_mem_padded hc)
  have hpoint {width n : Nat} (hc : c ∈ '.' :: padded width n) : isBlank c = false := by
    rcases List.mem_cons.mp hc with rfl | hc
    · rfl
    · exact hpadded hc
  have hfraction {nanos : Nat} (hc : c ∈ fractionText nanos) : isBlank c = false := by
    unfold fractionText at hc
    split at hc
    · cases hc
    · split at hc
      · exact hpoint hc
      · split at hc
        · exact hpoint hc
        · exact hpoint hc
  simp only [Time.text, List.mem_append, List.mem_cons] at h
  rcases h with ((hc | rfl | hc) | rfl | hc) | hc
  · exact hpadded hc
  · rfl
  · exact hpadded hc
  · rfl
  · exact hpadded hc
  · exact hfraction hc

/-- A date-time has a blank between its parts, but none at its ends. -/
theorem DateTime.trim_text (t : DateTime) : trim t.text = t.text := by
  have hdate : t.date.text ≠ [] := by simp [Date.text]
  have htime : t.time.text ≠ [] := by simp [Time.text]
  have htrim := trim_of_parts (fun c hc => Date.isBlank_of_mem_text hc)
    (fun c hc => Time.isBlank_of_mem_text hc) hdate htime [' ']
  rwa [List.append_assoc] at htrim

/-- **A date-time is read back from its text.** -/
theorem DateTime.ofText?_text {t : DateTime} (h : t.time.LeapsAtEnd) :
    ofText? t.text = some t := by
  have htime : readTime? (t.time.text ++ []) = some (t.time, []) := readTime?_text h nofun
  rw [List.append_nil] at htime
  have htrim : trimStart (' ' :: t.time.text) = t.time.text :=
    trimStart_of_head fun c hc => Time.isBlank_of_mem_text (List.mem_of_mem_head? hc)
  rw [ofText?, text, textWith, readDate?_text]
  simp only [Option.bind_eq_bind, Option.bind_some, htrim, htime]
  rfl

end SqlAccess
