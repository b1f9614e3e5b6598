import SqlAccess.Scripted.Placeholders

/-!
# Placeholders stand outside of literals

A SQL text is cut into segments: plain text without quotes, and literals.  A literal
is enclosed in one of the three quotes, and its body has that quote only doubled; the
other two are characters like any other there.  The last literal of a text may lack its
closing quote.  The count of placeholders knows nothing of this.  It goes from character
to character, and a doubled quote ends one literal for it and begins another.  Still it
comes to the question marks of the plain segments.

* `IsBody`, `Literal` and `Segment` — the grammar, and `Segmented` — a text cut by it;
* `Literal.placeholdersFrom_opening`, `Literal.placeholdersFrom_text` and
  `placeholdersFrom_textOf` — the count before any rest;
* `exists_segmented` — there is no text that cannot be cut so;
* `placeholders_outside_literals` — **the count is that of the plain segments**.
-/

namespace SqlAccess

/-! ## Segments -/

/-- The bodies of the literals of a quote: the quote stands there only doubled. -/
inductive IsBody (quote : Char) : List Char → Prop where
  | nil : IsBody quote []
  | other {c : Char} {body : List Char} (hc : c ≠ quote) (tail : IsBody quote body) :
      IsBody quote (c :: body)
  | doubled {body : List Char} (tail : IsBody quote body) : IsBody quote (quote :: quote :: body)

/-- A literal: one of the quotes, and a body of its literals. -/
structure Literal where
  quote : Char
  body : List Char
  isQuote_quote : isQuote quote = true
  isBody : IsBody quote body

namespace Literal

/-- A literal that lacks its closing quote. -/
def opening (l : Literal) : List Char := l.quote :: l.body

/-- A literal between its quotes. -/
def text (l : Literal) : List Char := l.opening ++ [l.quote]

end Literal

/-- A segment of a SQL text. -/
inductive Segment where
  | plain (cs : List Char) (noQuotes : ∀ c ∈ cs, isQuote c = false)
  | literal (l : Literal)

namespace Segment

def text : Segment → List Char
  | plain cs _ => cs
  | literal l => l.text

/-- What of a segment is not part of a literal. -/
def plainText : Segment → List Char
  | plain cs _ => cs
  | literal _ => []

/-- The text of segments one after the other; all literals of it are closed. -/
def textOf (ss : List Segment) : List Char := ss.flatMap text

/-- The question marks of the plain segments. -/
def questionMarks (ss : List Segment) : Nat := (ss.flatMap plainText).count '?'

end Segment

/-- A text in segments, with the literal at its end that lacks its closing quote, if
there is one. -/
structure Segmented where
  segments : List Segment
  unterminated : Option Literal

def Segmented.text (t : Segmented) : List Char :=
  Segment.textOf t.segments ++ (t.unterminated.map Literal.opening).getD []

/-! ## The count before a rest -/

/-- Plain text is counted by its question marks. -/
theorem placeholdersFrom_plain {cs : List Char} (hcs : ∀ c ∈ cs, isQuote c = false)
    (rest : List Char) :
    placeholdersFrom none (cs ++ rest) = cs.count '?' + placeholdersFrom none rest := by
  induction cs with
  | nil => rw [List.nil_append, List.count_nil, Nat.zero_add]
  | cons c cs ih =>
      have hc : isQuote c = false := hcs c List.mem_cons_self
      have htail := ih fun d hd => hcs d (List.mem_cons_of_mem c hd)
      rw [List.cons_append, placeholdersFrom, hc, if_neg Bool.false_ne_true, htail]
      by_cases hmark : c = '?'
      · rw [if_pos hmark, hmark, List.count_cons_self]
        omega
      · rw [if_neg hmark, List.count_cons_of_ne hmark]

/-- **Inside of a literal nothing is counted**, and after its body the count is still
inside of it. -/
theorem placeholdersFrom_body {quote : Char} {body : List Char} (hquote : isQuote quote = true)
    (h : IsBody quote body) (rest : List Char) :
    placeholdersFrom (some quote) (body ++ rest) = placeholdersFrom (some quote) rest := by
  induction h with
  | nil => rfl
  | @other c body hc _ ih => rw [List.cons_append, placeholdersFrom, if_neg hc, ih]
  | @doubled body _ ih =>
      -- The first of the two ends the literal, and the second begins it again.
      rw [List.cons_append, List.cons_append, placeholdersFrom, if_pos rfl, placeholdersFrom,
        if_pos hquote, ih]

namespace Literal

/-- After a literal without its closing quote, the count is inside of that literal. -/
theorem placeholdersFrom_opening (l : Literal) (rest : List Char) :
    placeholdersFrom none (l.opening ++ rest) = placeholdersFrom (some l.quote) rest := by
  rw [opening, List.cons_append, placeholdersFrom, if_pos l.isQuote_quote,
    placeholdersFrom_body l.isQuote_quote l.isBody]

/-- After the closing quote, it is outside. -/
theorem placeholdersFrom_text (l : Literal) (rest : List Char) :
    placeholdersFrom none (l.text ++ rest) = placeholdersFrom none rest := by
  rw [text, List.append_assoc, placeholdersFrom_opening, List.singleton_append, placeholdersFrom,
    if_pos rfl]

end Literal

theorem Segment.placeholdersFrom_text (s : Segment) (rest : List Char) :
    placeholdersFrom none (s.text ++ rest) =
      s.plainText.count '?' + placeholdersFrom none rest := by
  cases s with
  | plain cs noQuotes => exact placeholdersFrom_plain noQuotes rest
  | literal l =>
      rw [Segment.text, l.placeholdersFrom_text, Segment.plainText, List.count_nil, Nat.zero_add]

/-- Segments are counted one after the other. -/
theorem placeholdersFrom_textOf (ss : List Segment) (rest : List Char) :
    placeholdersFrom none (Segment.textOf ss ++ rest) =
      Segment.questionMarks ss + placeholdersFrom none rest := by
  induction ss with
  | nil => exact (Nat.zero_add _).symm
  | cons s ss ih =>
      have htext : Segment.textOf (s :: ss) = s.text ++ Segment.textOf ss := rfl
      have hmarks : Segment.questionMarks (s :: ss) =
          s.plainText.count '?' + Segment.questionMarks ss := List.count_append
      rw [htext, List.append_assoc, s.placeholdersFrom_text, ih, hmarks, Nat.add_assoc]

/-- The count of segments alone. -/
theorem placeholders_textOf (ss : List Segment) :
    placeholders (String.ofList (Segment.textOf ss)) = Segment.questionMarks ss := by
  have hall := placeholdersFrom_textOf ss []
  rw [List.append_nil] at hall
  rw [placeholders, String.toList_ofList, hall]
  rfl

/-- A literal at the end that lacks its closing quote adds nothing. -/
theorem placeholders_text (t : Segmented) :
    placeholders (String.ofList t.text) = Segment.questionMarks t.segments := by
  rw [placeholders, String.toList_ofList, Segmented.text, placeholdersFrom_textOf]
  cases t.unterminated with
  | none => rfl
  | some l =>
      have hnone := l.placeholdersFrom_opening []
      rw [List.append_nil] at hnone
      exact congrArg (_ + ·) hnone

theorem placeholders_append (sql sql' : String) :
    placeholders (sql ++ sql') = placeholdersFrom none (sql.toList ++ sql'.toList) := by
  rw [placeholders, String.toList_append]

/-! ## All texts -/

/-- **There is no text that cannot be cut**, and no rest of a literal that neither ends
it nor is left inside of it. -/
theorem exists_segmented (cs : List Char) :
    (∃ t : Segmented, t.text = cs) ∧
      ∀ quote, IsBody quote cs ∨
        ∃ body, IsBody quote body ∧ ∃ t : Segmented, cs = body ++ quote :: t.text := by
  induction cs with
  | nil => exact ⟨⟨⟨[], none⟩, rfl⟩, fun quote => .inl .nil⟩
  | cons c cs ih =>
      obtain ⟨⟨t, ht⟩, hinside⟩ := ih
      constructor
      · by_cases hc : isQuote c = true
        · -- The character begins a literal, which ends somewhere or does not.
          obtain hbody | ⟨body, hbody, t', rfl⟩ := hinside c
          · exact ⟨⟨[], some ⟨c, cs, hc, hbody⟩⟩, rfl⟩
          · refine ⟨⟨.literal ⟨c, body, hc, hbody⟩ :: t'.segments, t'.unterminated⟩, ?_⟩
            simp [Segmented.text, Segment.textOf, Segment.text, Literal.text, Literal.opening]
        · have hplain : ∀ d ∈ [c], isQuote d = false := by
            intro d hd
            rw [List.mem_singleton.mp hd]
            exact Bool.eq_false_iff.mpr hc
          exact ⟨⟨.plain [c] hplain :: t.segments, t.unterminated⟩, congrArg (c :: ·) ht⟩
      · intro quote
        by_cases hc : c = quote
        · exact .inr ⟨[], .nil, t, by rw [hc, ht, List.nil_append]⟩
        · obtain hbody | ⟨body, hbody, t', rfl⟩ := hinside quote
          · exact .inl (.other hc hbody)
          · exact .inr ⟨c :: body, .other hc hbody, t', rfl⟩

/-- **The placeholders of a text are the question marks of its plain segments**, and
every text has its segments.  After segments whose literals are all closed the count
begins anew, whatever follows.  Only its own quote begins or ends a literal: whichever
other quotes the body has, before the closing quote the count is inside of that literal,
and after it outside of any, and nothing of the literal is counted. -/
theorem placeholders_outside_literals :
    (∀ t : Segmented,
      placeholders (String.ofList t.text) = Segment.questionMarks t.segments) ∧
    (∀ sql : String, ∃ t : Segmented, String.ofList t.text = sql) ∧
    (∀ (ss : List Segment) (sql : String),
      placeholders (String.ofList (Segment.textOf ss) ++ sql) =
        placeholders (String.ofList (Segment.textOf ss)) + placeholders sql) ∧
    ∀ (ss : List Segment) (l : Literal) (sql : String),
      placeholders (String.ofList (Segment.textOf ss ++ l.opening) ++ sql) =
          placeholders (String.ofList (Segment.textOf ss)) +
            placeholdersFrom (some l.quote) sql.toList ∧
        placeholders (String.ofList (Segment.textOf ss ++ l.text) ++ sql) =
          placeholders (String.ofList (Segment.textOf ss)) + placeholders sql := by
  refine ⟨placeholders_text, ?_, ?_, ?_⟩
  · intro sql
    obtain ⟨⟨t, ht⟩, -⟩ := exists_segmented sql.toList
    exact ⟨t, by rw [ht, String.ofList_toList]⟩
  · intro ss sql
    rw [placeholders_textOf, placeholders_append, String.toList_ofList, placeholdersFrom_textOf]
    rfl
  · intro ss l sql
    constructor
    · rw [placeholders_textOf, placeholders_append, String.toList_ofList, List.append_assoc,
        placeholdersFrom_textOf, l.placeholdersFrom_opening]
    · rw [placeholders_textOf, placeholders_append, String.toList_ofList, List.append_assoc,
        placeholdersFrom_textOf, l.placeholdersFrom_text]
      rfl

example : placeholders "SELECT '?''?', \"it's ?\" FROM t WHERE a = ? AND b = 'to the end?" = 1 := by
  decide

end SqlAccess
