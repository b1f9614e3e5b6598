/-!
# Letter case

Comparison of texts that ignores the case of ASCII letters.  Other letters
differ from their capitals.

* `sameIgnoringCase` — the comparison;
* `sameIgnoringCase_iff` — it compares the lower-case forms.
-/

namespace SqlAccess.Text

/-- The text with its ASCII letters in lower case. -/
def lowerCase (s : String) : List Char := s.toList.map Char.toLower

/-- Whether two texts differ in the case of ASCII letters at most. -/
def sameIgnoringCase (a b : String) : Bool := lowerCase a == lowerCase b

/-- Ignoring case is equality of lower-case forms. -/
theorem sameIgnoringCase_iff {a b : String} :
    sameIgnoringCase a b = true ↔ lowerCase a = lowerCase b := by
  simp [sameIgnoringCase]

end SqlAccess.Text
