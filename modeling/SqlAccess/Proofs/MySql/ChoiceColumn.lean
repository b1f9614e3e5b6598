import SqlAccess.Proofs.MySql.IntegerColumn

/-!
# Integer columns that hold a choice

A column of integers may hold a truth value or the position of an enumeration's
variant.  Fetched from a prepared statement it does: every integer of 64 bits but
zero is true, and a position selects its variant.  A plain statement brings the
integer's text, and a text is a truth value only if it is one of a few words,
among which are `0` and `1`; and it selects a variant by its name.  So the two
protocols rarely agree.

* `gives_bool_ofIntegerText`, `gives_variant_ofIntegerText` — what the text is
  fetched as;
* `Holds.gives_bool`, `Holds.gives_variant` — what the integer is fetched as;
* `choices_fetched_alike_iff` — **where the two protocols agree**.
-/

namespace SqlAccess

open Text

/-- Fetching in two steps has the outcome of both. -/
theorem Gives.bind {α β : Type} {r : Except Error α} {o : Option α} {f : α → Except Error β}
    {g : α → Option β} (h : Gives r o) (hf : ∀ a, Gives (f a) (g a)) :
    Gives (r.bind f) (o.bind g) := by
  cases o with
  | none =>
      obtain ⟨message, rfl⟩ := h
      exact ⟨message, rfl⟩
  | some a =>
      cases h
      exact hf a

theorem Enumeration.gives_ofValue (e : Enumeration) (v : Value) :
    Gives (e.ofValue v) (e.select? v) := by
  unfold ofValue
  cases e.select? v with
  | none => exact ⟨_, rfl⟩
  | some x => rfl

theorem Enumeration.gives_fetch (e : Enumeration) {v : Value} (hv : v.isNull = false) :
    Gives ((FieldType.enumeration e).fetch v) (v.coerceEnum?.bind e.select?) :=
  (Value.gives_coerce hv .enum).bind e.gives_ofValue

/-! ## The text of an integer as a choice -/

/-- Of the words for truth values, only two are numbers. -/
theorem Value.boolOfWord?_integerText (n : Int) :
    boolOfWord? (String.ofList (integerText n)) =
      if n = 0 ∨ n = 1 then some (n != 0) else none := by
  have hyes : String.ofList (integerText n) ∈ ["true", "1", "y", "yes"] → n = 1 :=
    fun h => List.mem_singleton.mp (mem_of_integerText h)
  have hno : String.ofList (integerText n) ∈ ["false", "0", "n", "no"] → n = 0 :=
    fun h => List.mem_singleton.mp (mem_of_integerText h)
  by_cases hzero : n = 0
  · subst hzero
    rfl
  by_cases hone : n = 1
  · subst hone
    rfl
  rw [boolOfWord?, if_neg (mt hyes hone), if_neg (mt hno hzero), if_neg (by simp [hzero, hone])]

namespace MySql

namespace Datum

variable {d : Datum} {n : Int} {type type' : Option ColumnType}

theorem gives_bool_ofIntegerText (htype : type.any ColumnType.isDecimal = false) :
    Gives (((ofIntegerText n).toValue type).coerce .bool)
      (if n = 0 ∨ n = 1 then some (.bool (n != 0)) else none) := by
  have hread : (Value.string (String.ofList (integerText n))).coerceBool? =
      if n = 0 ∨ n = 1 then some (.bool (n != 0)) else none := by
    simp only [Value.coerceBool?, String.toList_ofList, trim_integerText, toLower_integerText,
      Value.boolOfWord?_integerText]
    split <;> rfl
  rw [toValue_ofIntegerText htype, ← hread]
  exact Value.gives_coerce rfl .bool

theorem gives_variant_ofIntegerText (htype : type.any ColumnType.isDecimal = false)
    (e : Enumeration) : Gives ((FieldType.enumeration e).fetch ((ofIntegerText n).toValue type))
      (e.withName? (String.ofList (integerText n))) := by
  rw [toValue_ofIntegerText htype]
  exact e.gives_fetch rfl

/-! ## The integer itself as a choice -/

theorem Holds.gives_bool (h : d.Holds n) :
    Gives ((d.toValue type).coerce .bool) (if n < 2 ^ 63 then some (.bool (n != 0)) else none) := by
  have hread : (d.toValue type).coerceBool? =
      if n < 2 ^ 63 then some (.bool (n != 0)) else none := by
    rcases h.toValue_cases type with ⟨m, rfl, hvalue⟩ | ⟨hlarge, hlt, hvalue⟩
    · rw [hvalue, if_pos m.toInt_lt]
      rfl
    · have hwide : ¬ FitsBits 64 n := fun hfits => absurd hfits.2 (by omega)
      rw [hvalue, if_neg (by omega)]
      simp only [Value.coerceBool?, Value.asInteger?, Decimal.truncate_ofInt, fitBits?,
        if_neg hwide, Option.map_none]
  rw [← hread]
  exact Value.gives_coerce (h.standsFor type).isNull .bool

/-- As a choice of a variant, an integer is a position of 32 bits in both of its
forms. -/
theorem Holds.coerceEnum? (h : d.Holds n) (type : Option ColumnType) :
    (d.toValue type).coerceEnum? = (fitBits? 32 n).map fun n => .int32 (.ofInt n) := by
  rcases h.toValue_cases type with ⟨m, rfl, hvalue⟩ | ⟨-, hlt, hvalue⟩
  · rw [hvalue]
    rfl
  · rw [hvalue]
    simp only [Value.coerceEnum?, Decimal.truncate_ofInt]

theorem Holds.gives_variant (h : d.Holds n) (e : Enumeration) :
    Gives ((FieldType.enumeration e).fetch (d.toValue type))
      ((fitBits? 32 n).bind e.atPosition?) := by
  have hselect : (d.toValue type).coerceEnum?.bind e.select? =
      (fitBits? 32 n).bind e.atPosition? := by
    rw [h.coerceEnum?]
    by_cases hfits : FitsBits 32 n
    · have hread : (Int32.ofInt n).toInt = n := Int32.toInt_ofInt_of_le hfits.1 hfits.2
      simp only [Value.fitBits?_of_fits hfits, Option.map_some, Option.bind_some,
        Enumeration.select?, Value.asInteger?, hread]
    · simp only [fitBits?, if_neg hfits, Option.map_none, Option.bind_none]
  rw [← hselect]
  exact e.gives_fetch (h.standsFor type).isNull

/-! ## Where they agree -/

/-- **The two protocols agree on an integer as a truth value** just if it is 0 or
1, or so large that both refuse it; **and as an enumeration's variant** just if
its text names the variant at its position, or there is neither. -/
theorem choices_fetched_alike_iff (hd : d.Holds n) (htype : type.any ColumnType.isDecimal = false)
    (e : Enumeration) :
    (FetchedAlike (((ofIntegerText n).toValue type).coerce .bool)
        ((d.toValue type').coerce .bool) ↔ n = 0 ∨ n = 1 ∨ 2 ^ 63 ≤ n) ∧
      (FetchedAlike ((FieldType.enumeration e).fetch ((ofIntegerText n).toValue type))
          ((FieldType.enumeration e).fetch (d.toValue type')) ↔
        e.withName? (String.ofList (integerText n)) = (fitBits? 32 n).bind e.atPosition?) := by
  refine ⟨?_, fetchedAlike_iff (gives_variant_ofIntegerText htype e) (hd.gives_variant e)⟩
  rw [fetchedAlike_iff (gives_bool_ofIntegerText htype) hd.gives_bool]
  by_cases hword : n = 0 ∨ n = 1
  · have hsmall : n < 2 ^ 63 := by omega
    rw [if_pos hword, if_pos hsmall]
    exact iff_of_true rfl (by omega)
  · rw [if_neg hword]
    by_cases hsmall : n < 2 ^ 63
    · rw [if_pos hsmall]
      exact iff_of_false nofun (by omega)
    · rw [if_neg hsmall]
      exact iff_of_true rfl (by omega)

/-- Both protocols have 1 as true.  The variant at position 1 is found in the
integer only. -/
theorem choices_fetched_alike_iff_of_one :
    let rank : Enumeration := ⟨"Rank", ["RECRUIT", "VETERAN", "ELITE"]⟩
    FetchedAlike (((ofIntegerText 1).toValue (some ⟨3⟩)).coerce .bool)
        (((Datum.int 1).toValue (some ⟨3⟩)).coerce .bool) ∧
      ¬ FetchedAlike ((FieldType.enumeration rank).fetch ((ofIntegerText 1).toValue (some ⟨3⟩)))
          ((FieldType.enumeration rank).fetch ((Datum.int 1).toValue (some ⟨3⟩))) := by
  intro rank
  have hboth := @choices_fetched_alike_iff (.int 1) 1 (some ⟨3⟩) (some ⟨3⟩) (.int 1) rfl rank
  exact ⟨hboth.1.mpr (by decide), mt hboth.2.mp (by decide)⟩

/-- A plain statement refuses the position and the number that a prepared one
takes. -/
theorem choices_differ :
    let rank : Enumeration := ⟨"Rank", ["RECRUIT", "VETERAN", "ELITE"]⟩
    (FieldType.enumeration rank).fetch ((ofIntegerText 1).toValue (some ⟨3⟩)) =
        .error (.typeMismatch "no Rank variant matches 1") ∧
      (FieldType.enumeration rank).fetch ((Datum.int 1).toValue (some ⟨3⟩)) =
        .ok (⟨1, by decide⟩ : rank.Variant) ∧
      ((ofIntegerText 2).toValue (some ⟨3⟩)).coerce .bool =
        .error (.typeMismatch "cannot read String value as Bool") ∧
      ((Datum.int 2).toValue (some ⟨3⟩)).coerce .bool = .ok (.bool true) := by
  have htext := @toValue_ofIntegerText (some ⟨3⟩) rfl
  rw [htext, htext]
  exact ⟨rfl, rfl, rfl, rfl⟩

end Datum

end MySql

end SqlAccess
