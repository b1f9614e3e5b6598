import SqlAccess.Number.Decimal.Text
import SqlAccess.Proofs.Text.ReadBack

/-!
# Decimals are read back

The text of a decimal is read as the decimal, with the same mantissa and the
same scale.  Only the sign of a zero is lost, since a zero read from text has
none.  Reading never has to round here: the mantissa fits all the way, and
where the last place is filled nothing is left of the text.

* `readFrom?_before` and `readFrom?_after` — reading digits on either side of
  the point;
* `Decimal.ofText?_text` — reading a decimal's text.
-/

namespace SqlAccess.Decimal

open Text

/-- The decimal, a zero without its sign. -/
def dropZeroSign (d : Decimal) : Decimal := { d with negative := d.negative && d.mantissa != 0 }

/-- A digit before the point. -/
theorem readFrom?_digit_before {m : Nat} {seen : Bool} {c : Char} (hc : c.isDigit = true)
    (hfits : 10 * m + (c.toNat - '0'.toNat) < mantissaBound) (rest : List Char) :
    readFrom? ⟨m, 0⟩ false seen (c :: rest) =
      readFrom? ⟨10 * m + (c.toNat - '0'.toNat), 0⟩ false true rest := by
  rw [readFrom?, if_pos hc]
  simp only [if_neg (Nat.not_le_of_lt hfits), Bool.false_eq_true, false_and, if_false]

/-- A digit after the point that leaves room for more places. -/
theorem readFrom?_digit_after {m s : Nat} {c : Char} (hc : c.isDigit = true)
    (hfits : 10 * m + (c.toNat - '0'.toNat) < mantissaBound) (hscale : s + 1 < maxScale)
    (rest : List Char) :
    readFrom? ⟨m, s⟩ true true (c :: rest) =
      readFrom? ⟨10 * m + (c.toNat - '0'.toNat), s + 1⟩ true true rest := by
  rw [readFrom?, if_pos hc]
  simp only [if_neg (Nat.not_le_of_lt hfits), if_true, if_neg (Nat.not_le_of_lt hscale), true_and]

/-- The digit that fills the last place, at the end of the text. -/
theorem readFrom?_digit_last {m s : Nat} {c : Char} (hc : c.isDigit = true)
    (hfits : 10 * m + (c.toNat - '0'.toNat) < mantissaBound) :
    readFrom? ⟨m, s⟩ true true [c] = some ⟨10 * m + (c.toNat - '0'.toNat), s + 1⟩ := by
  rw [readFrom?, if_pos hc]
  simp only [if_neg (Nat.not_le_of_lt hfits), if_true, true_and]
  -- If this was the last place, the rest decides the rounding; there is none.
  split
  · unfold Reading.finish?
    rw [if_pos List.all_nil]
    split <;> rfl
  · rfl

/-- The digits before the point are read as their number. -/
theorem readFrom?_before {ds : List Char} (hds : ∀ c ∈ ds, c.isDigit = true) (hne : ds ≠ [])
    {m : Nat} {seen : Bool} (hfits : Nat.ofDigitChars 10 ds m < mantissaBound)
    (rest : List Char) :
    readFrom? ⟨m, 0⟩ false seen (ds ++ rest) =
      readFrom? ⟨Nat.ofDigitChars 10 ds m, 0⟩ false true rest := by
  induction ds generalizing m seen with
  | nil => exact absurd rfl hne
  | cons c ds ih =>
      rw [Nat.ofDigitChars_cons] at hfits ⊢
      have hnext := Nat.lt_of_le_of_lt (le_ofDigitChars ds _) hfits
      rw [List.cons_append, readFrom?_digit_before (hds c List.mem_cons_self) hnext]
      by_cases hds' : ds = []
      · subst hds'
        rfl
      · exact ih (fun x hx => hds x (List.mem_cons_of_mem c hx)) hds' hfits

/-- The digits after the point are read as places, up to the last one there
is. -/
theorem readFrom?_after {ds : List Char} (hds : ∀ c ∈ ds, c.isDigit = true) {m s : Nat}
    (hscale : s + ds.length ≤ maxScale) (hfits : Nat.ofDigitChars 10 ds m < mantissaBound) :
    readFrom? ⟨m, s⟩ true true ds = some ⟨Nat.ofDigitChars 10 ds m, s + ds.length⟩ := by
  induction ds generalizing m s with
  | nil => rfl
  | cons c ds ih =>
      rw [Nat.ofDigitChars_cons] at hfits ⊢
      rw [List.length_cons] at hscale ⊢
      have hc := hds c List.mem_cons_self
      have hnext := Nat.lt_of_le_of_lt (le_ofDigitChars ds _) hfits
      by_cases hds' : ds = []
      · subst hds'
        exact readFrom?_digit_last hc hnext
      · have hpos : 0 < ds.length := List.length_pos_iff.mpr hds'
        rw [readFrom?_digit_after hc hnext (by omega),
          ih (fun x hx => hds x (List.mem_cons_of_mem c hx)) (by omega) hfits]
        simp only [Nat.add_assoc, Nat.add_comm 1]

/-- The digits of a decimal without its sign, the point among them. -/
def body (d : Decimal) : List Char :=
  let ds := padded (d.scale + 1) d.mantissa
  if d.scale = 0 then ds else ds.take (ds.length - d.scale) ++ '.' :: ds.drop (ds.length - d.scale)

theorem text_eq (d : Decimal) : d.text = if d.negative then '-' :: d.body else d.body := rfl

/-- The digits of a decimal are read as its mantissa and its scale. -/
theorem readFrom?_body (d : Decimal) :
    readFrom? ⟨0, 0⟩ false false d.body = some ⟨d.mantissa, d.scale⟩ := by
  have hdigits : ∀ c ∈ padded (d.scale + 1) d.mantissa, c.isDigit = true :=
    fun c => isDigit_of_mem_padded
  have hlength := le_length_padded (d.scale + 1) d.mantissa
  have hvalue : Nat.ofDigitChars 10 (padded (d.scale + 1) d.mantissa) 0 = d.mantissa :=
    digitsValue_padded _ _
  have hfits : d.mantissa < mantissaBound := d.mantissa_lt
  unfold body
  generalize padded (d.scale + 1) d.mantissa = ds at hdigits hlength hvalue ⊢
  by_cases hscale : d.scale = 0
  · have hne : ds ≠ [] := List.ne_nil_of_length_pos (by omega)
    have hread : readFrom? ⟨0, 0⟩ false false (ds ++ []) =
        readFrom? ⟨d.mantissa, 0⟩ false true [] := by
      rw [readFrom?_before hdigits hne (hvalue ▸ hfits), hvalue]
    rw [if_pos hscale, hscale, ← List.append_nil ds, hread]
    rfl
  · -- The whole part, the point, and as many places as the scale says.
    obtain ⟨whole, places, rfl, hplaces⟩ : ∃ whole places, ds = whole ++ places ∧
        places.length = d.scale := by
      refine ⟨ds.take (ds.length - d.scale), ds.drop (ds.length - d.scale), ?_, ?_⟩
      · exact (List.take_append_drop _ _).symm
      · rw [List.length_drop]
        omega
    have hwhole : (whole ++ places).length - d.scale = whole.length := by
      rw [List.length_append, hplaces, Nat.add_sub_cancel]
    have hne : whole ≠ [] := by
      rw [List.length_append] at hlength
      exact List.ne_nil_of_length_pos (by omega)
    rw [Nat.ofDigitChars_append] at hvalue
    have hbefore : Nat.ofDigitChars 10 whole 0 < mantissaBound := by
      have hle := le_ofDigitChars places (Nat.ofDigitChars 10 whole 0)
      omega
    have hpoint (m : Nat) : readFrom? ⟨m, 0⟩ false true ('.' :: places) =
        readFrom? ⟨m, 0⟩ true true places := rfl
    rw [if_neg hscale, hwhole, List.take_left, List.drop_left,
      readFrom?_before (fun c hc => hdigits c (List.mem_append_left _ hc)) hne hbefore, hpoint,
      readFrom?_after (fun c hc => hdigits c (List.mem_append_right _ hc)) ?_ ?_, hvalue, hplaces,
      Nat.zero_add]
    · rw [hplaces, Nat.zero_add]
      exact d.scale_le
    · rw [hvalue]
      exact hfits

/-- The digits start with one, and not with a sign. -/
theorem takeSign_body (d : Decimal) : takeSign d.body = (false, d.body) := by
  have hdigits : ∀ c ∈ padded (d.scale + 1) d.mantissa, c.isDigit = true :=
    fun c => isDigit_of_mem_padded
  have hlength := le_length_padded (d.scale + 1) d.mantissa
  unfold body
  generalize padded (d.scale + 1) d.mantissa = ds at hdigits hlength ⊢
  obtain ⟨c, rest, rfl⟩ : ∃ c rest, ds = c :: rest :=
    List.exists_cons_of_length_pos (by omega)
  have hc := hdigits c List.mem_cons_self
  by_cases hscale : d.scale = 0
  · rw [if_pos hscale, takeSign_of_isDigit hc]
  · obtain ⟨k, hk⟩ : ∃ k, (c :: rest).length - d.scale = k + 1 :=
      ⟨(c :: rest).length - d.scale - 1, by omega⟩
    rw [if_neg hscale, hk, List.take_succ_cons, List.cons_append, takeSign_of_isDigit hc]

/-- A decimal is written in digits, a point and a minus. -/
theorem trim_text (d : Decimal) : trim d.text = d.text := by
  have hpadded {c : Char} (hc : c ∈ padded (d.scale + 1) d.mantissa) : isBlank c = false :=
    isBlank_of_isDigit (isDigit_of_mem_padded hc)
  have hbody {c : Char} (hc : c ∈ d.body) : isBlank c = false := by
    unfold body at hc
    split at hc
    · exact hpadded hc
    · rcases List.mem_append.mp hc with hwhole | hrest
      · exact hpadded (List.mem_of_mem_take hwhole)
      · rcases List.mem_cons.mp hrest with rfl | hplace
        · rfl
        · exact hpadded (List.mem_of_mem_drop hplace)
  apply trim_of_no_blanks
  intro c hc
  rw [text_eq] at hc
  split at hc
  · rcases List.mem_cons.mp hc with rfl | hc
    · rfl
    · exact hbody hc
  · exact hbody hc

/-- **The text of a decimal is read as the decimal**; a zero loses its sign. -/
theorem ofText?_text (d : Decimal) : ofText? d.text = some d.dropZeroSign := by
  have hsign : takeSign d.text = (d.negative, d.body) := by
    rw [text_eq]
    cases d.negative with
    | true => rfl
    | false => exact takeSign_body d
  have hmake : ofReading? d.negative ⟨d.mantissa, d.scale⟩ = some d.dropZeroSign :=
    dif_pos ⟨d.mantissa_lt, d.scale_le⟩
  have hplain : readPlain? d.text = some d.dropZeroSign := by
    unfold readPlain?
    rw [hsign]
    simp only [readFrom?_body, Option.bind_some, hmake]
  unfold ofText?
  rw [hplain]

end SqlAccess.Decimal
