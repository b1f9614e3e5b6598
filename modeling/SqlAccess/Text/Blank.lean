/-!
# Blanks

White space and its removal from the ends of a text.  A character is blank
when Unicode gives it the property `White_Space`; there are 25 of them.

* `isBlank` — the property;
* `trim` — a text without the blanks at its two ends;
* `trim_append_blanks` — blanks around a text change nothing about its
  trimmed form.
-/

namespace SqlAccess.Text

/-- The characters with the Unicode property `White_Space`. -/
def isBlank (c : Char) : Bool :=
  let n := c.toNat
  (0x9 ≤ n && n ≤ 0xD) || n == 0x20 || n == 0x85 || n == 0xA0 || n == 0x1680 ||
    (0x2000 ≤ n && n ≤ 0x200A) || n == 0x2028 || n == 0x2029 || n == 0x202F ||
    n == 0x205F || n == 0x3000

/-- The text without the blanks it starts with. -/
def trimStart (cs : List Char) : List Char := cs.dropWhile isBlank

/-- The text without the blanks it ends with. -/
def trimEnd (cs : List Char) : List Char := (cs.reverse.dropWhile isBlank).reverse

/-- The text without the blanks at its two ends. -/
def trim (cs : List Char) : List Char := trimEnd (trimStart cs)

/-- A text that holds nothing but blanks. -/
def IsBlankText (s : String) : Prop := trim s.toList = []

instance (s : String) : Decidable (IsBlankText s) := inferInstanceAs (Decidable (_ = _))

/-- Blanks in front are dropped. -/
theorem trimStart_blanks_append {bs : List Char} (h : ∀ b ∈ bs, isBlank b = true)
    (cs : List Char) : trimStart (bs ++ cs) = trimStart cs := by
  induction bs with
  | nil => rfl
  | cons b bs ih =>
    have hb : isBlank b = true := h b (by simp)
    simpa [trimStart, hb] using ih (fun x hx => h x (by simp [hx]))

/-- Blanks behind are dropped. -/
theorem trimEnd_append_blanks {bs : List Char} (h : ∀ b ∈ bs, isBlank b = true)
    (cs : List Char) : trimEnd (cs ++ bs) = trimEnd cs := by
  have := @trimStart_blanks_append bs.reverse (by simpa using h) cs.reverse
  simpa [trimEnd, trimStart] using congrArg List.reverse this

/-- Blanks around a text change nothing about its trimmed form. -/
theorem trim_append_blanks {before after : List Char} (hbefore : ∀ b ∈ before, isBlank b = true)
    (hafter : ∀ b ∈ after, isBlank b = true) (cs : List Char) :
    trim (before ++ cs ++ after) = trim cs := by
  have hblanks : trimStart (after ++ []) = [] := trimStart_blanks_append hafter []
  rw [List.append_nil] at hblanks
  rw [trim, trim, List.append_assoc, trimStart_blanks_append hbefore]
  unfold trimStart at hblanks ⊢
  rw [List.dropWhile_append]
  split
  · next hcs =>
    -- The text holds blanks only, and so do the blanks behind it.
    rw [hblanks, List.isEmpty_iff.mp hcs]
  · exact trimEnd_append_blanks hafter _

end SqlAccess.Text
