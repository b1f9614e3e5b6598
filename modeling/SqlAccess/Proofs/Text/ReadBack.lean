import Mathlib.Data.List.TakeWhile
import SqlAccess.Text.Blank
import SqlAccess.Text.Digits
import SqlAccess.Uuid

/-!
# Texts that are read back

What is written as bytes of UTF-8, as decimal or hexadecimal digits or as an
identifier is read back as what it was.  A text with no blank at its ends is its
own trimmed form, so reading may trim first.

* `Text.trim_of_ends` — trimming leaves such a text alone;
* `String.fromUTF8?_toUTF8` and `toUTF8_of_fromUTF8?` — texts as bytes;
* `Text.digitsValue_padded`, `Text.takeDigits_append` — numbers as digits, also
  at the start of a longer text;
* `Text.readHex?_hexText` — bytes as hexadecimal digits;
* `Uuid.ofText?_text` — identifiers.
-/

/-- A text is read back from its bytes. -/
theorem String.fromUTF8?_toUTF8 (s : String) : String.fromUTF8? s.toUTF8 = some s := by
  have hvalid : s.toUTF8.IsValidUTF8 := s.isValidUTF8
  unfold String.fromUTF8?
  rw [dif_pos hvalid]
  rfl

/-- Bytes that are read as a text are the text's. -/
theorem String.toUTF8_of_fromUTF8? {b : ByteArray} {s : String}
    (h : String.fromUTF8? b = some s) : s.toUTF8 = b := by
  unfold String.fromUTF8? at h
  split at h
  · cases h
    rfl
  · cases h

namespace SqlAccess

namespace Text

/-- A text that starts with no blank loses none there. -/
theorem trimStart_of_head {cs : List Char} (h : ∀ c ∈ cs.head?, isBlank c = false) :
    trimStart cs = cs := by
  cases cs with
  | nil => rfl
  | cons c rest =>
      have hc : ¬ isBlank c = true := by
        rw [h c rfl]
        exact Bool.false_ne_true
      exact List.dropWhile_cons_of_neg hc

/-- **A text with no blank at its ends is its own trimmed form.** -/
theorem trim_of_ends {cs : List Char} (hhead : ∀ c ∈ cs.head?, isBlank c = false)
    (hlast : ∀ c ∈ cs.getLast?, isBlank c = false) : trim cs = cs := by
  have hreverse : trimStart cs.reverse = cs.reverse :=
    trimStart_of_head fun c hc => hlast c (List.head?_reverse ▸ hc)
  unfold trim trimEnd
  rw [trimStart_of_head hhead]
  unfold trimStart at hreverse
  rw [hreverse, List.reverse_reverse]

theorem trim_of_no_blanks {cs : List Char} (h : ∀ c ∈ cs, isBlank c = false) : trim cs = cs :=
  trim_of_ends (fun c hc => h c (List.mem_of_mem_head? hc))
    fun c hc => h c (List.mem_of_mem_getLast? hc)

/-- Blanks inside of a text are not trimmed. -/
theorem trim_of_parts {front back : List Char} (hfront : ∀ c ∈ front, isBlank c = false)
    (hback : ∀ c ∈ back, isBlank c = false) (hne : front ≠ []) (hne' : back ≠ [])
    (between : List Char) : trim (front ++ between ++ back) = front ++ between ++ back := by
  apply trim_of_ends
  · rw [List.append_assoc, List.head?_append, List.head?_eq_some_head hne, Option.some_or]
    rintro _ ⟨⟩
    exact hfront _ (List.head_mem hne)
  · rw [List.getLast?_append, List.getLast?_eq_some_getLast hne', Option.some_or]
    rintro _ ⟨⟩
    exact hback _ (List.getLast_mem hne')

/-- A text of which nothing is left was made of blanks. -/
theorem isBlank_of_mem_of_isBlankText {s : String} (h : IsBlankText s) :
    ∀ c ∈ s.toList, isBlank c = true := by
  have hnone : (trimStart s.toList).reverse.dropWhile isBlank = [] := List.reverse_eq_nil_iff.mp h
  intro c hc
  rw [← List.takeWhile_append_dropWhile (p := isBlank) (l := s.toList), List.mem_append] at hc
  rcases hc with hfront | hrest
  · exact List.mem_takeWhile_imp hfront
  · exact List.dropWhile_eq_nil_iff.mp hnone c (List.mem_reverse.mpr hrest)

/-! ## Decimal digits -/

/-- Padding is of digits, too. -/
theorem isDigit_of_mem_padded {width n : Nat} {c : Char} (h : c ∈ padded width n) :
    c.isDigit = true := by
  rcases List.mem_append.mp h with hzero | hdigit
  · rw [List.eq_of_mem_replicate hzero]
    rfl
  · exact Nat.isDigit_of_mem_toDigits (by decide) (by decide) hdigit

theorem le_length_padded (width n : Nat) : width ≤ (padded width n).length := by
  simp only [padded, List.length_append, List.length_replicate]
  omega

/-- **A number is read back from its digits**, zeros in front or not. -/
theorem digitsValue_padded (width n : Nat) : digitsValue (padded width n) = n := by
  unfold digitsValue padded digits
  rw [Nat.ofDigitChars_append, Nat.ofDigitChars_replicate_zero, Nat.mul_zero,
    Nat.ofDigitChars_ten_toDigits]

/-- A number that the width has room for is padded to just that width. -/
theorem length_padded {width n : Nat} (hwidth : 0 < width) (h : n < 10 ^ width) :
    (padded width n).length = width := by
  have hle : (digits n).length ≤ width := (Nat.length_toDigits_le_iff (by decide) hwidth).mpr h
  simp only [padded, List.length_append, List.length_replicate]
  omega

/-- Digits end where the text goes on with something else. -/
theorem takeDigits_append {ds rest : List Char} (hds : ∀ c ∈ ds, c.isDigit = true)
    (hrest : ∀ c ∈ rest.head?, c.isDigit = false) : takeDigits (ds ++ rest) = (ds, rest) := by
  have hnone : rest.takeWhile Char.isDigit = [] ∧ rest.dropWhile Char.isDigit = rest := by
    cases rest with
    | nil => exact ⟨rfl, rfl⟩
    | cons c rest =>
        have hc : ¬ c.isDigit = true := by
          rw [hrest c rfl]
          exact Bool.false_ne_true
        exact ⟨List.takeWhile_cons_of_neg hc, List.dropWhile_cons_of_neg hc⟩
  rw [takeDigits, List.takeWhile_append_of_pos hds, List.dropWhile_append_of_pos hds, hnone.1,
    hnone.2, List.append_nil]

/-- A run of digits that is as long as may be is taken as a whole. -/
theorem takeDigitsUpTo_append {ds : List Char} (hds : ∀ c ∈ ds, c.isDigit = true)
    (rest : List Char) : takeDigitsUpTo ds.length (ds ++ rest) = (ds, rest) := by
  have hall : ds.takeWhile Char.isDigit = ds := List.takeWhile_eq_self_iff.mpr hds
  simp only [takeDigitsUpTo, List.take_left, hall, List.drop_left]

theorem toNat_of_isDigit {c : Char} (h : c.isDigit = true) : 48 ≤ c.toNat ∧ c.toNat ≤ 57 := by
  simp only [Char.isDigit, Bool.and_eq_true, decide_eq_true_eq, UInt32.le_iff_toNat_le] at h
  exact h

theorem isBlank_of_isDigit {c : Char} (h : c.isDigit = true) : isBlank c = false := by
  have hdigit := toNat_of_isDigit h
  simp [isBlank]
  omega

/-- Reading more digits makes a number no smaller. -/
theorem le_ofDigitChars (ds : List Char) (n : Nat) : n ≤ Nat.ofDigitChars 10 ds n := by
  rw [Nat.ofDigitChars_eq_ofDigitChars_zero]
  have hpow : 1 ≤ 10 ^ ds.length := Nat.one_le_pow _ _ (by decide)
  have hmul : 1 * n ≤ 10 ^ ds.length * n := Nat.mul_le_mul_right n hpow
  omega

/-- A digit in front is no sign. -/
theorem takeSign_of_isDigit {c : Char} (h : c.isDigit = true) (rest : List Char) :
    takeSign (c :: rest) = (false, c :: rest) := by
  unfold takeSign
  split
  · next heq =>
      cases heq
      exact absurd h (by decide)
  · next heq =>
      cases heq
      exact absurd h (by decide)
  · rfl

/-! ## Hexadecimal digits -/

/-- Each of the sixteen digits has its value. -/
theorem hexValue?_hexDigit : ∀ n < 16, hexValue? (hexDigit n) = some n := by
  decide

theorem isBlank_hexDigit : ∀ n < 16, isBlank (hexDigit n) = false := by
  decide

/-- Both halves of a byte are below sixteen. -/
theorem halves_lt (b : UInt8) : b.toNat / 16 < 16 ∧ b.toNat % 16 < 16 := by
  have hlt := b.toNat_lt
  omega

/-- Bytes are read back from their digits. -/
theorem readHex?_hexText (bs : List UInt8) : readHex? (hexText bs) = some bs := by
  induction bs with
  | nil => rfl
  | cons b rest ih =>
      obtain ⟨hhigh, hlow⟩ := halves_lt b
      have hjoin : UInt8.ofNat (16 * (b.toNat / 16) + b.toNat % 16) = b := by
        rw [Nat.div_add_mod, UInt8.ofNat_toNat]
      have hrest : hexText (b :: rest) =
          hexDigit (b.toNat / 16) :: hexDigit (b.toNat % 16) :: hexText rest := rfl
      rw [hrest, readHex?, hexValue?_hexDigit _ hhigh, hexValue?_hexDigit _ hlow, ih]
      simp only [Option.bind_eq_bind, Option.bind_some, hjoin]
      rfl

theorem length_hexText (bs : List UInt8) : (hexText bs).length = 2 * bs.length := by
  induction bs with
  | nil => rfl
  | cons b rest ih =>
      have hrest : (hexText (b :: rest)).length = (hexText rest).length + 2 := rfl
      rw [hrest, ih, List.length_cons]
      omega

/-- No digit of a text is a blank. -/
theorem isBlank_of_mem_hexText {bs : List UInt8} {c : Char} (h : c ∈ hexText bs) :
    isBlank c = false := by
  obtain ⟨b, _, hc⟩ := List.mem_flatMap.mp h
  obtain ⟨hhigh, hlow⟩ := halves_lt b
  simp only [hexByte, List.mem_cons, List.not_mem_nil, or_false] at hc
  rcases hc with rfl | rfl
  · exact isBlank_hexDigit _ hhigh
  · exact isBlank_hexDigit _ hlow

end Text

namespace Uuid

open Text

/-- Groups of 8, 4, 4, 4 and more digits are found between their hyphens. -/
theorem ungroup?_groups {a b c d : List Char} (ha : a.length = 8) (hb : b.length = 4)
    (hc : c.length = 4) (hd : d.length = 4) (e : List Char) :
    ungroup? (a ++ '-' :: b ++ '-' :: c ++ '-' :: d ++ '-' :: e) =
      some (a ++ b ++ c ++ d ++ e) := by
  have hhyphens : [8, 13, 18, 23].all fun i =>
      (a ++ '-' :: b ++ '-' :: c ++ '-' :: d ++ '-' :: e)[i]? == some '-' := by
    simp [List.getElem?_append_right, ha, hb, hc, hd]
  unfold ungroup?
  rw [if_pos hhyphens]
  simp (disch := omega) [List.drop_append, List.drop_eq_nil_of_le, ha, hb, hc, hd]

/-- The groups of a text make up the text. -/
theorem append_groups (ds : List Char) :
    ds.take 8 ++ (ds.drop 8).take 4 ++ (ds.drop 12).take 4 ++ (ds.drop 16).take 4 ++ ds.drop 20 =
      ds := by
  have hnext (n : Nat) : ds.take n ++ (ds.drop n).take 4 = ds.take (n + 4) := List.take_add.symm
  rw [hnext 8, hnext 12, hnext 16, List.take_append_drop]

/-- The digits are read back from their grouped form. -/
theorem ungroup?_group {ds : List Char} (h : ds.length = 32) : ungroup? (group ds) = some ds := by
  have hfirst : (ds.take 8).length = 8 := by
    rw [List.length_take, h]
    rfl
  have hgroup (n : Nat) (hn : n ≤ 28) : ((ds.drop n).take 4).length = 4 := by
    rw [List.length_take, List.length_drop, h]
    omega
  unfold group
  rw [ungroup?_groups hfirst (hgroup 8 (by omega)) (hgroup 12 (by omega)) (hgroup 16 (by omega)),
    append_groups]

/-- The grouped form has the digits and hyphens. -/
theorem mem_group {ds : List Char} {c : Char} (h : c ∈ group ds) : c = '-' ∨ c ∈ ds := by
  have hgroup (n : Nat) (hc : c ∈ (ds.drop n).take 4) : c ∈ ds :=
    List.mem_of_mem_drop (List.mem_of_mem_take hc)
  simp only [group, List.mem_append, List.mem_cons] at h
  rcases h with (((h | h | h) | h | h) | h | h) | h | h
  · exact Or.inr (List.mem_of_mem_take h)
  · exact Or.inl h
  · exact Or.inr (hgroup 8 h)
  · exact Or.inl h
  · exact Or.inr (hgroup 12 h)
  · exact Or.inl h
  · exact Or.inr (hgroup 16 h)
  · exact Or.inl h
  · exact Or.inr (List.mem_of_mem_drop h)

theorem length_group {ds : List Char} (h : ds.length = 32) : (group ds).length = 36 := by
  simp only [group, List.length_append, List.length_cons, List.length_take, List.length_drop, h]
  rfl

/-- **An identifier is read back from its text.** -/
theorem ofText?_text (u : Uuid) : ofText? u.text = some u := by
  have hlength : (hexText u.bytes).length = 32 := by
    rw [length_hexText, u.length_eq]
  have hgrouped : ofGrouped? u.text = some u := by
    unfold ofGrouped? text ofPlain?
    rw [ungroup?_group hlength, Option.bind_some, readHex?_hexText, Option.bind_some]
    exact dif_pos u.length_eq
  unfold ofText?
  rw [text, length_group hlength]
  exact hgrouped

/-- The text of an identifier holds no blanks. -/
theorem trim_text (u : Uuid) : trim u.text = u.text := by
  apply trim_of_no_blanks
  intro c hc
  rcases mem_group hc with rfl | hdigit
  · decide
  · exact isBlank_of_mem_hexText hdigit

end Uuid

end SqlAccess
