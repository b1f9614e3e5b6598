import SqlAccess.Proofs.MySql.RoundTrip
import SqlAccess.Proofs.Number.Integers

/-!
# Columns of integers on both protocols

A plain statement brings an integer column back as text, a prepared one as a
number.  The first is decoded as a string.  The second is decoded as an integer
of 64 bits if there is one, and else as a decimal.  An integer can so arrive in
three forms, and fetched as text, as a number or as a decimal it is the same in
all of them.

* `Datum.Holds` — the integer that a number of the binary protocol is;
* `Value.StandsFor` — the forms;
* `Value.integerIn?` and `Value.StandsFor.coerce?_eq` — what is fetched does
  not depend on the form;
* `integers_fetched_alike` — **the two protocols agree on integer columns**.
-/

namespace SqlAccess

open Text

/-! ## Outcomes -/

/-- Whether a fetch has the given outcome: the value, or the refusal of one
that does not fit. -/
def Gives {α : Type} (r : Except Error α) : Option α → Prop
  | some a => r = .ok a
  | none => ∃ message, r = .error (.typeMismatch message)

/-- Two fetches that give the same value, or are both refused. -/
inductive FetchedAlike {α : Type} : Except Error α → Except Error α → Prop
  | value (a : α) : FetchedAlike (.ok a) (.ok a)
  | refused (message message' : String) :
      FetchedAlike (.error (.typeMismatch message)) (.error (.typeMismatch message'))

theorem fetchedAlike_iff {α : Type} {r r' : Except Error α} {o o' : Option α} (h : Gives r o)
    (h' : Gives r' o') : FetchedAlike r r' ↔ o = o' := by
  cases o with
  | none =>
      obtain ⟨message, rfl⟩ := h
      cases o' with
      | none =>
          obtain ⟨message', rfl⟩ := h'
          exact iff_of_true (.refused message message') rfl
      | some a' =>
          cases h'
          exact iff_of_false nofun nofun
  | some a =>
      cases h
      cases o' with
      | none =>
          obtain ⟨message', rfl⟩ := h'
          exact iff_of_false nofun nofun
      | some a' =>
          cases h'
          constructor
          · rintro ⟨⟩
            rfl
          · rintro ⟨⟩
            exact .value a

theorem Value.gives_coerce {v : Value} (hv : v.isNull = false) (kind : Kind) :
    Gives (v.coerce kind) (v.coerce? kind) := by
  unfold coerce
  rw [hv, if_neg Bool.false_ne_true]
  cases v.coerce? kind with
  | none => exact ⟨_, rfl⟩
  | some w => rfl

theorem fitsBits_toInt (n : Int64) : FitsBits 64 n.toInt := ⟨n.le_toInt, n.toInt_lt⟩

namespace Value

/-! ## The forms of an integer -/

/-- The values that an integer arrives as. -/
inductive StandsFor : Value → Int → Prop
  | text (n : Int) : StandsFor (.string (String.ofList (integerText n))) n
  | int64 (n : Int64) : StandsFor (.int64 n) n.toInt
  | decimal {n : Int} (h : n.natAbs < 2 ^ 96) : StandsFor (.decimal (.ofInt n h)) n

/-- The kinds in which the form of an integer does not matter. -/
def integerKinds : List Kind :=
  [.string, .int8, .int16, .int32, .int64, .float32, .float64, .decimal]

variable {v : Value} {n : Int}

/-- An integer in one of these kinds, if it is in range. -/
def integerIn? (n : Int) (h : n.natAbs < 2 ^ 96) : Kind → Option Value
  | .string => some (.string (String.ofList (integerText n)))
  | .int8 => (fitBits? 8 n).map fun n => .int8 (.ofInt n)
  | .int16 => (fitBits? 16 n).map fun n => .int16 (.ofInt n)
  | .int32 => (fitBits? 32 n).map fun n => .int32 (.ofInt n)
  | .int64 => (fitBits? 64 n).map fun n => .int64 (.ofInt n)
  | .float32 => some (.float32 ((Binary.ofInt n : Double).toFormat .single))
  | .float64 => some (.float64 (.ofInt n))
  | .decimal => some (.decimal (.ofInt n h))
  | _ => none

namespace StandsFor

theorem isNull (h : v.StandsFor n) : v.isNull = false := by
  cases h <;> rfl

theorem asInteger? (h : v.StandsFor n) : v.asInteger? = fitBits? 64 n := by
  cases h with
  | text =>
      simp only [Value.asInteger?, String.toList_ofList, trim_integerText, readInteger?_integerText,
        Option.bind_some]
  | int64 m => simp only [Value.asInteger?, fitBits?, if_pos (fitsBits_toInt m)]
  | decimal hlt => simp only [Value.asInteger?, Decimal.truncate_ofInt]

/-- Text and decimal are rounded as the integer is. -/
theorem asDouble? (h : v.StandsFor n) (hlt : n.natAbs < 2 ^ 96) :
    v.asDouble? = some (Binary.ofInt n) := by
  cases h with
  | text =>
      have hread : n.natAbs < 10 ^ 400 :=
        calc n.natAbs < 2 ^ 96 := hlt
          _ ≤ 10 ^ 96 := Nat.pow_le_pow_left (by decide) 96
          _ ≤ 10 ^ 400 := Nat.pow_le_pow_right (by decide) (by decide)
      simp only [Value.asDouble?, String.toList_ofList, trim_integerText,
        Binary.ofText?_integerText _ hread]
  | int64 m => rfl
  | decimal => simp only [Value.asDouble?, Decimal.toDouble_ofInt]

theorem coerceString? (h : v.StandsFor n) :
    v.coerceString? = some (.string (String.ofList (integerText n))) := by
  cases h with
  | text => rfl
  | int64 m => rfl
  | decimal hlt => simp only [Value.coerceString?, Value.text, Decimal.text_ofInt]

theorem coerceDecimal? (h : v.StandsFor n) (hlt : n.natAbs < 2 ^ 96) :
    v.coerceDecimal? = some (.decimal (.ofInt n hlt)) := by
  cases h with
  | text =>
      simp only [Value.coerceDecimal?, String.toList_ofList, trim_integerText,
        Decimal.ofText?_integerText hlt, Option.map_some]
  | int64 m => rfl
  | decimal => rfl

/-- In each of the kinds, what is fetched depends on the integer alone. -/
theorem coerce?_eq (h : v.StandsFor n) (hlt : n.natAbs < 2 ^ 96) {kind : Kind}
    (hkind : kind ∈ integerKinds) : v.coerce? kind = integerIn? n hlt kind := by
  have hbits : ∀ width ≤ 64, v.asInteger?.bind (fitBits? width) = fitBits? width n := by
    intro width hle
    rw [h.asInteger?, fitBits?_bind hle]
  simp only [integerKinds, List.mem_cons, List.not_mem_nil, or_false] at hkind
  rcases hkind with rfl | rfl | rfl | rfl | rfl | rfl | rfl | rfl
  · exact h.coerceString?
  · simp only [coerce?, hbits 8 (by decide), integerIn?]
  · simp only [coerce?, hbits 16 (by decide), integerIn?]
  · simp only [coerce?, hbits 32 (by decide), integerIn?]
  · simp only [coerce?, hbits 64 (by decide), integerIn?]
  · simp only [coerce?, h.asDouble? hlt, Option.map_some, integerIn?]
  · simp only [coerce?, h.asDouble? hlt, Option.map_some, integerIn?]
  · exact h.coerceDecimal? hlt

/-- The integer itself is fetched, or refused where it is out of range. -/
theorem gives_coerce (h : v.StandsFor n) (hlt : n.natAbs < 2 ^ 96) {kind : Kind}
    (hkind : kind ∈ integerKinds) : Gives (v.coerce kind) (integerIn? n hlt kind) := by
  rw [← h.coerce?_eq hlt hkind]
  exact Value.gives_coerce h.isNull kind

end StandsFor

end Value

namespace MySql

namespace Datum

/-- The integer that a number of the binary protocol is. -/
inductive Holds : Datum → Int → Prop
  | int (n : Int64) : Holds (.int n) n.toInt
  | uint (n : UInt64) : Holds (.uint n) n.toNat

/-- An integer as the text protocol has it. -/
def ofIntegerText (n : Int) : Datum := ofText (String.ofList (integerText n))

variable {d : Datum} {n : Int} {type type' : Option ColumnType}

/-- Every integer of a column is far below the limit of decimals. -/
theorem Holds.natAbs_lt (h : d.Holds n) : n.natAbs < 2 ^ 96 := by
  cases h with
  | int m =>
      have hlow := m.le_toInt
      have hhigh := m.toInt_lt
      omega
  | uint m =>
      have hhigh := m.toNat_lt
      omega

/-- The text protocol's integer is decoded as its text. -/
theorem toValue_ofIntegerText (htype : type.any ColumnType.isDecimal = false) (n : Int) :
    (ofIntegerText n).toValue type = .string (String.ofList (integerText n)) := by
  cases type with
  | none =>
      simp only [ofIntegerText, ofText, toValue, bytesToValue, htype, Bool.false_eq_true, if_false,
        String.fromUTF8?_toUTF8]
  | some type => exact toValue_ofText htype _

/-- The binary protocol's integer is decoded as itself, or as the decimal where
64 bits are not enough. -/
theorem Holds.toValue_cases (h : d.Holds n) (type : Option ColumnType) :
    (∃ m : Int64, m.toInt = n ∧ d.toValue type = .int64 m) ∨
      2 ^ 63 ≤ n ∧ ∃ hlt, d.toValue type = .decimal (.ofInt n hlt) := by
  cases h with
  | int m => exact .inl ⟨m, rfl, rfl⟩
  | uint m =>
      by_cases hfits : m.toNat < 2 ^ 63
      · have hread : (Int64.ofNat m.toNat).toInt = m.toNat := Int64.toInt_ofNat_of_lt hfits
        exact .inl ⟨_, hread, if_pos hfits⟩
      · have hlt : (m.toNat : Int).natAbs < 2 ^ 96 := (Holds.uint m).natAbs_lt
        refine .inr ⟨by omega, hlt, ?_⟩
        simp only [toValue, if_neg hfits, Decimal.ofNat_eq_ofInt]

theorem Holds.standsFor (h : d.Holds n) (type : Option ColumnType) :
    (d.toValue type).StandsFor n := by
  rcases h.toValue_cases type with ⟨m, rfl, hvalue⟩ | ⟨-, hlt, hvalue⟩
  · exact hvalue ▸ .int64 m
  · exact hvalue ▸ .decimal hlt

theorem standsFor_ofIntegerText (htype : type.any ColumnType.isDecimal = false) (n : Int) :
    ((ofIntegerText n).toValue type).StandsFor n :=
  toValue_ofIntegerText htype n ▸ .text n

/-- **The two protocols agree on integer columns.**  In every kind of number, as
text and as a decimal, the integer's text and the integer itself are fetched as
the same value, which is the integer; or both are refused, where it is out of
range. -/
theorem integers_fetched_alike (hd : d.Holds n) (htype : type.any ColumnType.isDecimal = false)
    {kind : Kind} (hkind : kind ∈ Value.integerKinds) :
    FetchedAlike (((ofIntegerText n).toValue type).coerce kind) ((d.toValue type').coerce kind) ∧
      Gives ((d.toValue type').coerce kind) (Value.integerIn? n hd.natAbs_lt kind) := by
  have htext := (standsFor_ofIntegerText htype n).gives_coerce hd.natAbs_lt hkind
  have hbinary := (hd.standsFor type').gives_coerce hd.natAbs_lt hkind
  exact ⟨(fetchedAlike_iff htext hbinary).mpr rfl, hbinary⟩

/-- The greatest unsigned integer comes back as a decimal from the binary
protocol.  Both ways it is rounded up to a power of two. -/
theorem integers_fetched_alike_at_end :
    FetchedAlike (((ofIntegerText 18446744073709551615).toValue (some ⟨8⟩)).coerce .float64)
        (((Datum.uint 18446744073709551615).toValue none).coerce .float64) ∧
      ((Datum.uint 18446744073709551615).toValue none).coerce .float64 =
        .ok (.float64 (.ofInt 18446744073709551616)) := by
  have hrounded : (Binary.ofInt 18446744073709551615 : Double) = .ofInt 18446744073709551616 := by
    decide +kernel
  rw [← hrounded]
  exact integers_fetched_alike (.uint 18446744073709551615) rfl (by decide)

end Datum

end MySql

end SqlAccess
