import SqlAccess.Proofs.Number.Exact
import SqlAccess.Result.Basic

/-!
# Kinds and field types fit each other

A column is fetched for a field in two steps: its value is brought into the
kind of the field's type, and what comes of it is assigned.  The first step
leaves a value in the shape of the kind, which it would not change any more, and
the second accepts every value in that shape.  So once a value has been brought
into the kind, no assignment fails, except for enumerations, where the value may
select no variant.

A field written as a value is fetched as itself.  The one exception is a field
that is not empty but is written as NULL nevertheless: an optional field whose
content is NULL, or is empty itself.

* `Value.HasShape` — the shape of each kind;
* `hasShape_of_coerce?`, `coerce_of_hasShape`, `ofValue_of_hasShape` — it is
  reached, kept and accepted;
* `Value.HasShape.exists_number` — integers of every width, told by their numbers;
* `FieldType.fetch` and `FieldType.BuriesNull` — both steps at once, and the
  exception;
* `kinds_and_fields_fit` — **kinds and field types fit each other**.
-/

namespace SqlAccess

/-! ## Integers of fewer bits -/

/-- An integer that few bits hold is held by many. -/
theorem FitsBits.mono {few many : Nat} (hle : few ≤ many) {n : Int} (h : FitsBits few n) :
    FitsBits many n := by
  have hpow : (2 : Int) ^ (few - 1) ≤ 2 ^ (many - 1) := by
    exact_mod_cast Nat.pow_le_pow_right Nat.two_pos (Nat.sub_le_sub_right hle 1)
  obtain ⟨hlow, hhigh⟩ := h
  exact ⟨by omega, by omega⟩

/-- Refusing what many bits do not hold refuses nothing that few bits hold. -/
theorem fitBits?_bind {few many : Nat} (hle : few ≤ many) (n : Int) :
    (fitBits? many n).bind (fitBits? few) = fitBits? few n := by
  by_cases hmany : FitsBits many n
  · simp only [fitBits?, if_pos hmany, Option.bind_some]
  · have hfew : ¬ FitsBits few n := fun h => hmany (h.mono hle)
    simp only [fitBits?, if_neg hmany, if_neg hfew, Option.bind_none]

/-- The number of bits of a kind of integers. -/
def Kind.width? : Kind → Option Nat
  | .int8 => some 8
  | .int16 => some 16
  | .int32 => some 32
  | .int64 => some 64
  | _ => none

theorem Kind.width_bounds {kind : Kind} {width : Nat} (hk : kind.width? = some width) :
    width = 64 ∨ 1 ≤ width ∧ width ≤ 32 := by
  cases kind
  all_goals cases hk
  all_goals omega

/-- No integer has more than 64 bits. -/
theorem Kind.width_le {kind : Kind} {width : Nat} (hk : kind.width? = some width) :
    width ≤ 64 := by
  have hbounds := Kind.width_bounds hk
  omega

namespace Value

/-- The values in the shape of a kind: its own variant, one character, or the
name or the position of an enumeration's variant. -/
inductive HasShape : Kind → Value → Prop
  | string (s : String) : HasShape .string (.string s)
  | char (c : Char) : HasShape .char (.string (String.singleton c))
  | bool (b : Bool) : HasShape .bool (.bool b)
  | int8 (n : Int8) : HasShape .int8 (.int8 n)
  | int16 (n : Int16) : HasShape .int16 (.int16 n)
  | int32 (n : Int32) : HasShape .int32 (.int32 n)
  | int64 (n : Int64) : HasShape .int64 (.int64 n)
  | float32 (x : Single) : HasShape .float32 (.float32 x)
  | float64 (x : Double) : HasShape .float64 (.float64 x)
  | decimal (d : Decimal) : HasShape .decimal (.decimal d)
  | date (d : Date) : HasShape .date (.date d)
  | time (t : Time) : HasShape .time (.time t)
  | dateTime (t : DateTime) : HasShape .dateTime (.dateTime t)
  | dateTimeTz (t : OffsetDateTime) : HasShape .dateTimeTz (.dateTimeTz t)
  | bytes (b : ByteArray) : HasShape .bytes (.bytes b)
  | uuid (u : Uuid) : HasShape .uuid (.uuid u)
  | enumName (s : String) : HasShape .enum (.string s)
  | enumOrdinal (n : Int32) : HasShape .enum (.int32 n)
  | any (v : Value) : HasShape .any v

variable {v w : Value} {kind : Kind}

/-! ## The shape is reached -/

/-- What is built by one constructor throughout has that constructor's shape. -/
theorem HasShape.of_map {α : Type} {make : α → Value} {o : Option α}
    (hmake : ∀ a, HasShape kind (make a)) (h : o.map make = some w) : HasShape kind w := by
  obtain ⟨a, -, rfl⟩ := Option.map_eq_some_iff.mp h
  exact hmake a

theorem hasShape_of_coerceString? (h : v.coerceString? = some w) : HasShape .string w := by
  cases v with
  | bytes b => exact .of_map .string h
  | _ =>
      cases h
      exact .string _

theorem hasShape_of_coerceChar? (h : v.coerceChar? = some w) : HasShape .char w := by
  cases v with
  | string s =>
      simp only [coerceChar?, Option.ite_none_right_eq_some] at h
      obtain ⟨hlength, hw⟩ := h
      cases hw
      obtain ⟨c, hc⟩ := List.length_eq_one_iff.mp (s.length_toList ▸ hlength)
      have hs : s = String.singleton c := by
        rw [← String.toList_inj, hc, String.toList_singleton]
      rw [hs]
      exact .char c
  | _ => cases h

theorem hasShape_of_coerceBool? (h : v.coerceBool? = some w) : HasShape .bool w := by
  cases v with
  | bool b =>
      cases h
      exact .bool b
  | string s => exact .of_map .bool h
  | _ =>
      simp only [coerceBool?] at h
      exact .of_map (fun n : Int => .bool (n != 0)) h

theorem hasShape_of_coerceDecimal? (h : v.coerceDecimal? = some w) : HasShape .decimal w := by
  cases v with
  | decimal | int8 | int16 | int32 | int64 =>
      cases h
      exact .decimal _
  | float32 | float64 | string => exact .of_map .decimal h
  | _ => cases h

theorem hasShape_of_coerceDate? (h : v.coerceDate? = some w) : HasShape .date w := by
  cases v with
  | date | dateTime | dateTimeTz =>
      cases h
      exact .date _
  | string s => exact .of_map .date h
  | _ => cases h

theorem hasShape_of_coerceTime? (h : v.coerceTime? = some w) : HasShape .time w := by
  cases v with
  | time | dateTime | dateTimeTz =>
      cases h
      exact .time _
  | string s => exact .of_map .time h
  | _ => cases h

theorem hasShape_of_coerceDateTime? (h : v.coerceDateTime? = some w) : HasShape .dateTime w := by
  cases v with
  | dateTime | date | dateTimeTz =>
      cases h
      exact .dateTime _
  | string s => exact .of_map .dateTime h
  | _ => cases h

theorem hasShape_of_coerceDateTimeTz? (h : v.coerceDateTimeTz? = some w) :
    HasShape .dateTimeTz w := by
  cases v with
  | dateTimeTz t =>
      cases h
      exact .dateTimeTz t
  | dateTime | date =>
      simp only [coerceDateTimeTz?] at h
      exact .of_map .dateTimeTz h
  | string s => exact .of_map .dateTimeTz h
  | _ => cases h

theorem hasShape_of_coerceBytes? (h : v.coerceBytes? = some w) : HasShape .bytes w := by
  cases v with
  | bytes | string | uuid =>
      cases h
      exact .bytes _
  | _ => cases h

theorem hasShape_of_coerceUuid? (h : v.coerceUuid? = some w) : HasShape .uuid w := by
  cases v with
  | uuid u =>
      cases h
      exact .uuid u
  | string | bytes => exact .of_map .uuid h
  | _ => cases h

theorem hasShape_of_coerceEnum? (h : v.coerceEnum? = some w) : HasShape .enum w := by
  have hordinal : ∀ n : Int, HasShape .enum (.int32 (.ofInt n)) := fun n => .enumOrdinal _
  cases v with
  | decimal d => exact .of_map hordinal h
  | int8 | int16 | int32 | int64 =>
      simp only [coerceEnum?, isInteger, if_true] at h
      exact .of_map hordinal h
  | _ =>
      cases h
      exact .enumName _

/-- **A value that has been fetched in a kind is in its shape.** -/
theorem hasShape_of_coerce? (h : v.coerce? kind = some w) : HasShape kind w := by
  cases kind with
  | string => exact hasShape_of_coerceString? h
  | char => exact hasShape_of_coerceChar? h
  | bool => exact hasShape_of_coerceBool? h
  | int8 => exact .of_map (fun n => .int8 (.ofInt n)) h
  | int16 => exact .of_map (fun n => .int16 (.ofInt n)) h
  | int32 => exact .of_map (fun n => .int32 (.ofInt n)) h
  | int64 => exact .of_map (fun n => .int64 (.ofInt n)) h
  | float32 => exact .of_map (fun x : Double => .float32 (x.toFormat .single)) h
  | float64 => exact .of_map .float64 h
  | decimal => exact hasShape_of_coerceDecimal? h
  | date => exact hasShape_of_coerceDate? h
  | time => exact hasShape_of_coerceTime? h
  | dateTime => exact hasShape_of_coerceDateTime? h
  | dateTimeTz => exact hasShape_of_coerceDateTimeTz? h
  | bytes => exact hasShape_of_coerceBytes? h
  | uuid => exact hasShape_of_coerceUuid? h
  | enum => exact hasShape_of_coerceEnum? h
  | any => exact .any w

/-- Fetching succeeds with what the conversion gives; NULL is not converted. -/
theorem coerce_eq_ok_iff (hv : v.isNull = false) :
    v.coerce kind = .ok w ↔ v.coerce? kind = some w := by
  unfold coerce
  rw [hv, if_neg Bool.false_ne_true]
  cases v.coerce? kind with
  | none => exact iff_of_false nofun nofun
  | some u => simp only [Except.ok.injEq, Option.some.injEq]

/-- A value with a shape can be fetched. -/
theorem coerce_of_coerce? (hv : v.isNull = false) (h : v.coerce? kind = some w) :
    v.coerce kind = .ok w := (coerce_eq_ok_iff hv).mpr h

/-- What is fetched of a value other than NULL is its shape in the kind. -/
theorem coerce?_of_coerce (hv : v.isNull = false) (h : v.coerce kind = .ok w) :
    v.coerce? kind = some w := (coerce_eq_ok_iff hv).mp h

/-! ## The shape is kept -/

theorem fitBits?_of_fits {width : Nat} {n : Int} (h : FitsBits width n) :
    fitBits? width n = some n := if_pos h

/-- The number of an integer has the bits of its kind, and whatever else has this number
is fetched as this integer. -/
theorem HasShape.exists_number {width : Nat} (hk : kind.width? = some width) (h : HasShape kind w) :
    ∃ n, w.asInteger? = some n ∧ FitsBits width n ∧
      ∀ v : Value, v.asInteger? = some n → v.coerce? kind = some w := by
  cases h with
  | int8 n | int16 n | int32 n | int64 n =>
      cases hk
      refine ⟨n.toInt, rfl, ⟨n.le_toInt, n.toInt_lt⟩, fun v hv => ?_⟩
      rw [coerce?, hv, Option.bind_some, fitBits?_of_fits ⟨n.le_toInt, n.toInt_lt⟩,
        Option.map_some, n.ofInt_toInt]
  | _ => cases hk

/-- A value in the shape of a kind is fetched as it is. -/
theorem coerce?_of_hasShape (h : HasShape kind w) : w.coerce? kind = some w := by
  have hshape := h
  cases h with
  | int8 n | int16 n | int32 n | int64 n =>
      obtain ⟨m, hm, -, hfetched⟩ := hshape.exists_number rfl
      exact hfetched _ hm
  | enumOrdinal n =>
      have hfits : FitsBits 32 n.toInt := ⟨n.le_toInt, n.toInt_lt⟩
      simp only [coerce?, coerceEnum?, isInteger, if_true, asInteger?, Option.bind_some,
        fitBits?_of_fits hfits, Option.map_some, Int32.ofInt_toInt]
  | float32 x =>
      -- 64 bits lose nothing of a number of 32 bits.
      simp only [coerce?, asDouble?, Option.map_some,
        Binary.toFormat_toFormat Format.single_widens_double]
  | char c =>
      have hlength : (String.singleton c).length = 1 := String.length_singleton
      simp only [coerce?, coerceChar?, hlength, if_true]
  | _ => rfl

theorem coerce_of_hasShape (h : HasShape kind w) : w.coerce kind = .ok w := by
  by_cases hw : w.isNull
  · exact if_pos hw
  · exact coerce_of_coerce? (Bool.not_eq_true _ ▸ hw) (coerce?_of_hasShape h)

end Value

namespace FieldType

variable {t : FieldType} {v w : Value}

/-! ## The shape is accepted -/

theorem ofValue_optional (hw : w ≠ .null) : (optional t).ofValue w = (t.ofValue w).map some := by
  cases w with
  | null => exact absurd rfl hw
  | _ => rfl

/-- A value in the shape of a field type's kind can be assigned. -/
theorem ofValue_of_hasShape (ht : t.kind ≠ .enum) (h : w.HasShape t.kind) :
    ∃ x, t.ofValue w = .ok x := by
  induction t with
  | optional t ih =>
      obtain ⟨x, hx⟩ := ih ht h
      by_cases hw : w = .null
      · subst hw
        exact ⟨none, rfl⟩
      · exact ⟨some x, by rw [ofValue_optional hw, hx, Except.map]⟩
  | enumeration e => exact absurd rfl ht
  | value => exact ⟨w, rfl⟩
  | char =>
      obtain _ | c := h
      exact ⟨c, by simp only [ofValue, String.toList_singleton]⟩
  | _ =>
      cases h
      exact ⟨_, rfl⟩

/-! ## Fields and their values -/

/-- Fetches a value for a field. -/
def fetch (t : FieldType) (v : Value) : Except Error t.Carrier := (v.coerce t.kind).bind t.ofValue

/-- Reading a field of a row is fetching its value. -/
theorem getField_eq (row : Row) (index : Nat) (t : FieldType) :
    row.getField index t = (row.get index).bind t.fetch := by
  simp only [Row.getField, Row.getAs, bind]
  cases row.get index <;> rfl

/-- Whether a field is not empty and is written as NULL nevertheless. -/
def BuriesNull : (t : FieldType) → t.Carrier → Prop
  | optional t, some x => t.toValue x = .null
  | _, _ => False

/-- A field's own value is in the shape of its kind, or is NULL. -/
theorem hasShape_toValue (t : FieldType) (x : t.Carrier) :
    t.toValue x = .null ∨ (t.toValue x).HasShape t.kind := by
  induction t with
  | optional t ih =>
      cases x with
      | none => exact .inl rfl
      | some x => exact ih x
  | enumeration e => exact .inr (.enumName _)
  | value => exact .inr (.any x)
  | char => exact .inr (.char x)
  | _ => exact .inr (by constructor)

/-- A field's own value is not changed on its way to the field. -/
theorem fetch_toValue (t : FieldType) (x : t.Carrier) :
    t.fetch (t.toValue x) = t.ofValue (t.toValue x) := by
  have hcoerce : (t.toValue x).coerce t.kind = .ok (t.toValue x) := by
    rcases t.hasShape_toValue x with hnull | hshape
    · rw [hnull]
      rfl
    · exact Value.coerce_of_hasShape hshape
  rw [fetch, hcoerce]
  rfl

theorem toValue_of_buriesNull {x : t.Carrier} (h : t.BuriesNull x) : t.toValue x = .null := by
  cases t with
  | optional t =>
      cases x with
      | none => exact h.elim
      | some x => exact h
  | _ => exact h.elim

/-- A field that buries a NULL comes back empty. -/
theorem ofValue_toValue_of_buriesNull {x : t.Carrier} (h : t.BuriesNull x) :
    t.ofValue (t.toValue x) ≠ .ok x := by
  rw [toValue_of_buriesNull h]
  cases t with
  | optional t =>
      cases x with
      | none => exact h.elim
      | some x => exact nofun
  | _ => exact h.elim

/-- Every other field is assigned from its own value. -/
theorem ofValue_toValue (ht : t.kind ≠ .enum) {x : t.Carrier} (hx : ¬ t.BuriesNull x) :
    t.ofValue (t.toValue x) = .ok x := by
  induction t with
  | optional t ih =>
      cases x with
      | none => rfl
      | some x =>
          -- If the content buried a NULL, it would be written as NULL itself.
          have hinner : ¬ t.BuriesNull x := fun h => hx (toValue_of_buriesNull h)
          rw [toValue, ofValue_optional hx, ih ht hinner, Except.map]
  | enumeration e => exact absurd rfl ht
  | char => simp only [toValue, ofValue, String.toList_singleton]
  | _ => rfl

theorem fetch_toValue_eq_ok_iff (ht : t.kind ≠ .enum) {x : t.Carrier} :
    t.fetch (t.toValue x) = .ok x ↔ ¬ t.BuriesNull x := by
  rw [fetch_toValue]
  exact ⟨fun h hx => ofValue_toValue_of_buriesNull hx h, ofValue_toValue ht⟩

/-- A row that has a field's own value in a column gives the field back from there. -/
theorem getField_eq_ok_iff (ht : t.kind ≠ .enum) {x : t.Carrier} {row : Row} {index : Nat}
    (h : row.get index = .ok (t.toValue x)) : row.getField index t = .ok x ↔ ¬ t.BuriesNull x := by
  rw [getField_eq, h]
  exact fetch_toValue_eq_ok_iff ht

/-- **Kinds and field types fit each other.**  A value that is not NULL and can be
fetched in a kind is then in the shape of the kind, stays as it is when fetched
again, and fits every field of the kind, except for enumerations.  NULL is
fetched as NULL.  And a field that is written as a value is fetched as itself, also
from a row, just if it does not bury a NULL. -/
theorem kinds_and_fields_fit :
    (∀ (v w : Value) (kind : Kind), v ≠ .null → v.coerce kind = .ok w →
      w.HasShape kind ∧ (kind = .any → w = v) ∧ w.coerce kind = .ok w ∧
        ∀ t : FieldType, t.kind = kind → kind ≠ .enum → ∃ x, t.ofValue w = .ok x) ∧
    (∀ kind, Value.null.coerce kind = .ok .null) ∧
    ∀ (t : FieldType) (x : t.Carrier), t.kind ≠ .enum →
      (t.fetch (t.toValue x) = .ok x ↔ ¬ t.BuriesNull x) ∧
        ∀ (row : Row) (index : Nat), row.get index = .ok (t.toValue x) →
          (row.getField index t = .ok x ↔ ¬ t.BuriesNull x) := by
  refine ⟨?_, fun kind => rfl, fun t x ht =>
    ⟨fetch_toValue_eq_ok_iff ht, fun row index h => getField_eq_ok_iff ht h⟩⟩
  intro v w kind hv h
  have hread : v.coerce? kind = some w := by
    refine Value.coerce?_of_coerce ?_ h
    cases v with
    | null => exact absurd rfl hv
    | _ => rfl
  have hshape : w.HasShape kind := Value.hasShape_of_coerce? hread
  refine ⟨hshape, ?_, Value.coerce_of_hasShape hshape, ?_⟩
  · rintro rfl
    exact (Option.some.inj hread).symm
  · rintro t rfl ht
    exact ofValue_of_hasShape ht hshape

/-- Midnight of the year's first day, shown by a clock east of UTC, is fetched
as the date-time before; and NULL in a field of any value comes back. -/
theorem kinds_and_fields_fit_at_midnight :
    let clock : OffsetDateTime :=
      ⟨⟨⟨2023, 12, 31, by decide⟩, ⟨23, 0, 0, 0, by decide, by decide, by decide, by decide⟩⟩,
        ⟨3600, by decide, by decide⟩, by decide⟩
    let w := Value.dateTime clock.utc
    let t := optional dateTime
    (Value.dateTimeTz clock).coerce .dateTime = .ok w ∧ w.HasShape .dateTime ∧
      (∃ x, t.ofValue w = .ok x) ∧
      t.fetch (t.toValue (some clock.utc)) = .ok (some clock.utc) ∧
      value.fetch (value.toValue .null) = .ok .null := by
  intro clock w t
  have hcoerce : (Value.dateTimeTz clock).coerce .dateTime = .ok w := rfl
  obtain ⟨hfetched, -, hfields⟩ := kinds_and_fields_fit
  obtain ⟨hshape, -, -, hassigned⟩ := hfetched (.dateTimeTz clock) w .dateTime nofun hcoerce
  exact ⟨hcoerce, hshape, hassigned t rfl nofun, (hfields t _ nofun).1.mpr nofun,
    (hfields value _ nofun).1.mpr id⟩

/-- A NULL that an optional field holds is lost: the field comes back empty. -/
theorem fetch_some_null :
    (optional value).fetch ((optional value).toValue (some .null)) = .ok none ∧
      (optional value).fetch ((optional value).toValue (some .null)) ≠ .ok (some .null) :=
  ⟨rfl, nofun⟩

end FieldType

end SqlAccess
