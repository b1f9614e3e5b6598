import SqlAccess.Proofs.Bean.Requests
import SqlAccess.Proofs.Value.Fetch

/-!
# NULL means zero for primitive properties

A NULL in the column of a primitive property stands for the property's zero.  With the
default in force, a row with such NULLs asks for just what the row with zeros in their
place asks for, and whoever answers, the same becomes of both.  Without the default, it
asks for what the columns left of the first such NULL ask for, and then fails there.
Either way no converter of a primitive property is given NULL.

* `Row.withZeros` — the row with zeros in the place of such NULLs;
* `BeanMapper.prepare_withZeros`, `prepare_of_isNullAt` — what becomes of one column;
* `BeanMapper.null_means_zero` — **what becomes of a row**.
-/

namespace SqlAccess

variable {β : Type}

/-- A zero is in the shape of its field's kind, and it is not NULL. -/
theorem FieldType.hasShape_zero {t : FieldType} {zero : Value} (h : t.zero? = some zero) :
    zero.HasShape t.kind ∧ zero ≠ .null := by
  cases t with
  | char =>
      cases h
      exact ⟨.char _, nofun⟩
  | bool | int8 | int16 | int32 | int64 | float32 | float64 =>
      cases h
      exact ⟨by constructor, nofun⟩
  | _ => cases h

/-- The value that stands for NULL in columns with a label, if they are written to a
primitive property. -/
def zeroFor? (properties : List (Property β)) (label : String) : Option Value :=
  (resolve? properties label).bind fun p => p.field.zero?

namespace Row

/-- The row with a zero in the place of each NULL in the column of a primitive
property. -/
def withZeros (properties : List (Property β)) (row : Row) : Row :=
  { row with values := row.values.mapIdx fun i v =>
      if v = .null then (row.labels[i]?.bind (zeroFor? properties)).getD v else v }

/-- The column of a primitive property holds NULL. -/
def IsNullAt (row : Row) (t : Target β) : Prop :=
  row.values[t.index - 1]? = some .null ∧ t.property.isPrimitive = true

variable {properties : List (Property β)} {row : Row} {t : Target β}

theorem labels_withZeros : (row.withZeros properties).labels = row.labels := rfl

theorem targets_withZeros :
    (row.withZeros properties).targets properties = row.targets properties := rfl

/-- A value of a resolved column, and the zero for its property in the place of NULL. -/
theorem values_withZeros (ht : t ∈ row.targets properties) :
    (row.withZeros properties).values[t.index - 1]? =
      row.values[t.index - 1]?.map fun v =>
        if v = .null then t.property.field.zero?.getD v else v := by
  obtain ⟨-, hlabel, hproperty⟩ := mem_targets.mp ht
  have hzero : zeroFor? properties t.label = t.property.field.zero? := by
    rw [zeroFor?, resolve?_eq_some_iff.mpr hproperty, Option.bind_some]
  simp only [withZeros, List.getElem?_mapIdx, hlabel, Option.bind_some, hzero]

/-- A resolved column has the value at its place. -/
theorem get_of_mem (ht : t ∈ row.targets properties) {v : Value}
    (hv : row.values[t.index - 1]? = some v) : row.get t.index = .ok v := by
  obtain ⟨hindex, hlabel, -⟩ := mem_targets.mp ht
  have hlt : t.index - 1 < row.columns.length := by
    simpa only [labels, List.length_map] using (List.getElem?_eq_some_iff.mp hlabel).1
  rw [← Nat.sub_add_cancel hindex]
  exact get_of_getElem? hlt hv

/-- Where no NULL stands for a zero, the row has what it had. -/
theorem get_withZeros (ht : t ∈ row.targets properties) (h : ¬ row.IsNullAt t) :
    (row.withZeros properties).get t.index = row.get t.index := by
  refine get_congr labels_withZeros ?_
  rw [values_withZeros ht]
  cases hv : row.values[t.index - 1]? with
  | none => rfl
  | some v =>
      by_cases hnull : v = .null
      · subst hnull
        have hzero : t.property.field.zero? = none := by
          simpa [IsNullAt, hv, Property.isPrimitive, FieldType.isPrimitive] using h
        simp [hzero]
      · simp [hnull]

/-- Where a NULL stands for a zero, the zero takes its place. -/
theorem exists_zero_of_isNullAt (ht : t ∈ row.targets properties) (h : row.IsNullAt t) :
    ∃ zero, t.property.field.zero? = some zero ∧ row.get t.index = .ok .null ∧
      (row.withZeros properties).get t.index = .ok zero := by
  obtain ⟨hnull, hprimitive⟩ := h
  obtain ⟨zero, hzero⟩ := Option.isSome_iff_exists.mp hprimitive
  have hvalue := values_withZeros ht
  rw [hnull, Option.map_some, if_pos rfl, hzero, Option.getD_some] at hvalue
  exact ⟨zero, hzero, get_of_mem ht hnull, get_of_mem (targets_withZeros ▸ ht) hvalue⟩

/-- A row without such NULLs is as it was. -/
theorem withZeros_eq_self (h : ∀ t ∈ row.targets properties, ¬ row.IsNullAt t) :
    row.withZeros properties = row := by
  have hvalues : (row.withZeros properties).values = row.values := by
    apply List.ext_getElem?
    intro i
    simp only [withZeros, List.getElem?_mapIdx]
    cases hv : row.values[i]? with
    | none => rfl
    | some v =>
        by_cases hnull : v = .null
        · subst hnull
          cases hlabel : row.labels[i]? with
          | none => rfl
          | some label =>
              cases hp : resolve? properties label with
              | none => simp [zeroFor?, hp]
              | some p =>
                  -- The property of this column has no zero, or the column would be one of them.
                  have hmem : ⟨i + 1, label, p⟩ ∈ row.targets properties :=
                    mem_targets.mpr ⟨by simp, by simpa using hlabel, resolve?_eq_some_iff.mp hp⟩
                  have hzero : p.field.zero? = none := by
                    simpa [IsNullAt, hv, Property.isPrimitive, FieldType.isPrimitive] using
                      h _ hmem
                  simp [zeroFor?, hp, hzero]
        · simp [hnull]
  obtain ⟨columns, values⟩ := row
  exact congrArg (Row.mk columns) hvalues

end Row

namespace BeanMapper

variable {m : BeanMapper β} {row : Row} {t : Target β}

/-! ## One column -/

/-- The error that a NULL cannot be written to a primitive property. -/
def nullError (t : Target β) : Error :=
  .typeMismatch s!"cannot write NULL column '{t.label}' into primitive property '{t.property.name}' of type {t.property.field.typeName}"

theorem replaceNull_of_ne_null {p : Property β} {v : Value} (h : v ≠ .null) (label : String) :
    m.replaceNull p label v = .ok v := by
  cases v with
  | null => exact absurd rfl h
  | _ => rfl

theorem replaceNull_null {p : Property β} {zero : Value} (h : p.field.zero? = some zero)
    (label : String) :
    m.replaceNull p label .null =
      if m.defaultsNull then .ok zero else .error (nullError ⟨0, label, p⟩) := by
  simp only [replaceNull, h]
  rfl

/-- A zero is not changed when it is fetched, in whatever kind its property wants. -/
theorem coerce_zero {p : Property β} {zero : Value} (h : p.field.zero? = some zero) :
    zero.coerce p.fetchKind = .ok zero := by
  unfold Property.fetchKind
  split
  · exact Value.coerce_of_hasShape (.any zero)
  · exact Value.coerce_of_hasShape (FieldType.hasShape_zero h).1

theorem prepare_of_get {v : Value} (h : row.get t.index = .ok v) :
    m.prepare row t = v.coerce t.property.fetchKind >>= m.replaceNull t.property t.label := by
  simp only [prepare, Row.getAs, h]
  rfl

/-- Without the default, a NULL is not written to a primitive property. -/
theorem prepare_of_isNullAt (ht : t ∈ row.targets m.properties) (hm : m.defaultsNull = false)
    (h : row.IsNullAt t) : m.prepare row t = .error (nullError t) := by
  obtain ⟨zero, hzero, hnull, -⟩ := Row.exists_zero_of_isNullAt ht h
  have hreplace : m.replaceNull t.property t.label .null = _ := replaceNull_null hzero t.label
  rw [hm, if_neg Bool.false_ne_true] at hreplace
  rw [prepare_of_get hnull]
  exact hreplace

/-- With the default, or where there is no such NULL, a column is prepared as in the row
with zeros. -/
theorem prepare_withZeros (ht : t ∈ row.targets m.properties)
    (h : m.defaultsNull = true ∨ ¬ row.IsNullAt t) :
    m.prepare (row.withZeros m.properties) t = m.prepare row t := by
  by_cases hnull : row.IsNullAt t
  · have hm : m.defaultsNull = true := h.resolve_right (not_not_intro hnull)
    obtain ⟨zero, hzero, hget, hget'⟩ := Row.exists_zero_of_isNullAt ht hnull
    have hreplace : m.replaceNull t.property t.label .null = _ := replaceNull_null hzero t.label
    rw [hm, if_pos rfl] at hreplace
    calc m.prepare (row.withZeros m.properties) t
        = zero.coerce t.property.fetchKind >>= m.replaceNull t.property t.label :=
          prepare_of_get hget'
      _ = m.replaceNull t.property t.label zero := by rw [coerce_zero hzero]; rfl
      _ = .ok zero := replaceNull_of_ne_null (FieldType.hasShape_zero hzero).2 t.label
      _ = m.replaceNull t.property t.label .null := hreplace.symm
      _ = m.prepare row t := (prepare_of_get hget).symm
  · simp only [prepare, Row.getAs, Row.get_withZeros ht hnull]

/-- A primitive property is never given NULL. -/
theorem prepare_ne_null {v : Value} (hprimitive : t.property.isPrimitive = true)
    (h : m.prepare row t = .ok v) : v ≠ .null := by
  obtain ⟨zero, hzero⟩ := Option.isSome_iff_exists.mp hprimitive
  rw [prepare] at h
  cases hfetch : row.getAs t.index t.property.fetchKind with
  | error e =>
      rw [hfetch] at h
      cases h
  | ok fetched =>
      rw [hfetch] at h
      change m.replaceNull t.property t.label fetched = .ok v at h
      by_cases hnull : fetched = .null
      · rw [hnull, replaceNull_null hzero] at h
        split at h
        · cases h
          exact (FieldType.hasShape_zero hzero).2
        · cases h
      · rw [replaceNull_of_ne_null hnull] at h
        cases h
        exact hnull

end BeanMapper

/-! ## Rows -/

/-- The request is not to convert NULL for a primitive property. -/
def Request.SparesPrimitives : Request β → Prop
  | .convert p _ v => p.isPrimitive = true → v ≠ .null
  | .write .. => True

/-- Of the resolved columns, `t` is the first in which NULL stands for a zero. -/
structure Row.FirstNull (properties : List (Property β)) (row : Row) (left : List (Target β))
    (t : Target β) (right : List (Target β)) : Prop where
  split : row.targets properties = left ++ t :: right
  before : ∀ u ∈ left, ¬ row.IsNullAt u
  null : row.IsNullAt t

theorem Row.FirstNull.split_withZeros {properties : List (Property β)} {row : Row}
    {left right : List (Target β)} {t : Target β} (h : row.FirstNull properties left t right) :
    (row.withZeros properties).targets properties = left ++ t :: right := h.split

namespace BeanMapper

variable {m : BeanMapper β} {row : Row} {t : Target β} {s : Registry × β}
variable {left right : List (Target β)}

theorem onlyCalls_columnRequests (m : BeanMapper β) (row : Row) (t : Target β) :
    (m.columnRequests row t).OnlyCalls Request.SparesPrimitives := by
  unfold columnRequests
  cases hprepare : m.prepare row t with
  | error e => trivial
  | ok v =>
      refine Program.OnlyCalls.andThen ?_ fun w => ?_
      · unfold Property.askToConvert
        cases t.property.converter with
        | none => trivial
        | some c => exact ⟨fun hp => prepare_ne_null hp hprepare, fun _ => trivial⟩
      · unfold Property.askToWrite
        cases t.property.field.ofValue w with
        | error e => trivial
        | ok x => exact ⟨trivial, fun _ => trivial⟩

theorem onlyCalls_requests (m : BeanMapper β) (row : Row) (targets : List (Target β)) :
    (m.requests row targets).OnlyCalls Request.SparesPrimitives := by
  induction targets with
  | nil => trivial
  | cons t rest ih => exact (onlyCalls_columnRequests m row t).andThen fun _ => ih

/-- With the default, a row asks for what the row with zeros asks for. -/
theorem requests_withZeros (hm : m.defaultsNull = true) :
    m.requests (row.withZeros m.properties) (row.targets m.properties) =
      m.requests row (row.targets m.properties) :=
  requests_congr fun _ ht => prepare_withZeros ht (.inl hm)

/-- Without the default, it asks for what the columns left of the first such NULL ask for,
and fails there. -/
theorem requests_of_firstNull (hm : m.defaultsNull = false)
    (h : row.FirstNull m.properties left t right) :
    m.requests row (row.targets m.properties) =
      (m.requests (row.withZeros m.properties) left).andThen fun _ =>
        .done (.error (nullError t)) := by
  have hmem : ∀ u ∈ left ++ t :: right, u ∈ row.targets m.properties := fun u hu => h.split ▸ hu
  have hleft : m.requests (row.withZeros m.properties) left = m.requests row left :=
    requests_congr fun u hu =>
      prepare_withZeros (hmem u (List.mem_append_left _ hu)) (.inr (h.before u hu))
  have hhere : m.columnRequests row t = .done (.error (nullError t)) := by
    have hprepare := prepare_of_isNullAt
      (hmem t (List.mem_append_right _ List.mem_cons_self)) hm h.null
    simp only [columnRequests, hprepare]
  rw [h.split, requests_append, hleft, requests, hhere]
  rfl

theorem finish_eq_error_iff {done : Except Error Unit × (Registry × β)} {e : Error} :
    finish done = .error e ↔ done.1 = .error e := by
  obtain ⟨e' | u, s⟩ := done
  · simp only [finish, Except.map, Except.error.injEq]
  · exact iff_of_false nofun nofun

/-- The mapping of a row fails at a column left of the one at an index. -/
def FailsBefore (m : BeanMapper β) (row : Row) (index : Nat) (s : Registry × β) (e : Error) :
    Prop :=
  ∃ left u right s', row.targets m.properties = left ++ u :: right ∧ u.index < index ∧
    Ran m row left s s' ∧ Fails m row u s' e

/-- That is, the columns left of it cannot be written. -/
theorem failsBefore_iff (hsplit : row.targets m.properties = left ++ t :: right) {e : Error} :
    m.FailsBefore row t.index s e ↔ ((m.requests row left).run answer s).1 = .error e := by
  have horder := targets_pairwise m.properties row
  rw [← finish_eq_error_iff, ← writeTargets_result_eq_run, writeTargets_eq_error_iff]
  constructor
  · rintro ⟨left', u, right', s', hsplit', hlt, hran, hfails⟩
    rw [hsplit] at hsplit' horder
    have hright : ∀ v ∈ right, t.index < v.index :=
      (List.pairwise_cons.mp (List.pairwise_append.mp horder).2.1).1
    rcases List.append_eq_append_iff.mp hsplit' with ⟨mid, rfl, htail⟩ | ⟨mid, rfl, htail⟩
    · -- The column would be `t` or right of it.
      cases mid with
      | nil =>
          cases htail
          exact absurd hlt (Nat.lt_irrefl _)
      | cons v mid =>
          cases htail
          have := hright u (List.mem_append_right _ List.mem_cons_self)
          omega
    · cases mid with
      | nil =>
          cases htail
          exact absurd hlt (Nat.lt_irrefl _)
      | cons v mid =>
          cases htail
          exact ⟨left', u, mid, s', rfl, hran, hfails⟩
  · rintro ⟨left', u, mid, s', rfl, hran, hfails⟩
    rw [hsplit] at horder
    have hlt : u.index < t.index :=
      (List.pairwise_append.mp horder).2.2 u (List.mem_append_right _ List.mem_cons_self) t
        List.mem_cons_self
    refine ⟨left', u, mid ++ t :: right, s', ?_, hlt, hran, hfails⟩
    rw [hsplit, List.append_assoc, List.cons_append]

/-- What is said of a row that may hold NULL in columns of primitive properties. -/
structure NullMeansZero (m : BeanMapper β) (memory : Memory β) (row : Row) : Prop where
  /-- Rows are mapped by answering their requests. -/
  answered : ∀ bean, m.instantiate = .ok bean → ∀ r : Row, (m.mapRow memory r).1 =
    finish ((m.requests r (r.targets m.properties)).run answer (memory.registry, bean))
  /-- With the default, the row and the one with zeros ask for the same, whatever the
  answers are. -/
  asked : m.defaultsNull = true →
    m.requests (row.withZeros m.properties) ((row.withZeros m.properties).targets m.properties) =
      m.requests row (row.targets m.properties)
  /-- So they are mapped alike. -/
  mapped : m.defaultsNull = true →
    m.mapRow memory (row.withZeros m.properties) = m.mapRow memory row
  /-- Without the default, the row asks for what the columns left of the first such NULL ask
  for in the one with zeros, which then goes on, while the row fails. -/
  askedLeft : m.defaultsNull = false → ∀ left t right, row.FirstNull m.properties left t right →
    (m.requests (row.withZeros m.properties) ((row.withZeros m.properties).targets m.properties) =
        (m.requests (row.withZeros m.properties) left).andThen fun _ =>
          m.requests (row.withZeros m.properties) (t :: right)) ∧
      m.requests row (row.targets m.properties) =
        (m.requests (row.withZeros m.properties) left).andThen fun _ =>
          .done (.error (nullError t))
  /-- So if the one with zeros fails left of it, the row fails alike. -/
  failsLeft : m.defaultsNull = false → ∀ left t right, row.FirstNull m.properties left t right →
    ∀ bean, m.instantiate = .ok bean → ∀ e,
      m.FailsBefore (row.withZeros m.properties) t.index (memory.registry, bean) e →
        (m.mapRow memory (row.withZeros m.properties)).1 = .error e ∧
          (m.mapRow memory row).1 = .error e
  /-- Otherwise it fails there. -/
  failsThere : m.defaultsNull = false → ∀ left t right, row.FirstNull m.properties left t right →
    ∀ bean, m.instantiate = .ok bean →
      (∀ e, ¬ m.FailsBefore (row.withZeros m.properties) t.index (memory.registry, bean) e) →
        (m.mapRow memory row).1 = .error (nullError t)
  /-- If there is no such NULL, the row is the one with zeros. -/
  without : (∀ t ∈ row.targets m.properties, ¬ row.IsNullAt t) → row.withZeros m.properties = row
  /-- If there is no object to write to, there is none for either of them. -/
  notInstantiated : ∀ reason, m.instantiate = .error reason →
    m.mapRow memory (row.withZeros m.properties) = m.mapRow memory row
  /-- No converter of a primitive property is asked to convert NULL. -/
  spared : (m.requests row (row.targets m.properties)).OnlyCalls Request.SparesPrimitives

/-- **NULL means zero for primitive properties**, or else fails in its turn, whatever rows
were mapped before and whoever converts and writes. -/
theorem null_means_zero (m : BeanMapper β) (start : Registry) (earlier : List Row)
    (registry : Registry) (row : Row) :
    NullMeansZero m ⟨registry, (m.mapRows ⟨start, none⟩ earlier).2.bindings⟩ row := by
  generalize hmemory : (⟨registry, (m.mapRows ⟨start, none⟩ earlier).2.bindings⟩ : Memory β) = memory
  have hs : memory.IsSound m := by
    have hkeeps := keeps_mapRows (Memory.Keeps.new m start) earlier
    rw [← hmemory]
    exact hkeeps.bindings
  have hrun : ∀ bean, m.instantiate = .ok bean → ∀ r : Row, (m.mapRow memory r).1 =
      finish ((m.requests r (r.targets m.properties)).run answer (memory.registry, bean)) :=
    fun bean hbean r => congrArg Prod.fst (mapRow_eq_run hbean hs r)
  have hsame : ∀ reason, m.instantiate = .error reason →
      m.mapRow memory (row.withZeros m.properties) = m.mapRow memory row := fun reason hbean => by
    rw [mapRow_of_error hbean, mapRow_of_error hbean]
  have hleft : ∀ left t right, row.FirstNull m.properties left t right →
      m.requests (row.withZeros m.properties) ((row.withZeros m.properties).targets m.properties) =
        (m.requests (row.withZeros m.properties) left).andThen fun _ =>
          m.requests (row.withZeros m.properties) (t :: right) := fun left t right h => by
    rw [h.split_withZeros, requests_append]
  constructor
  case answered => exact hrun
  case asked => exact requests_withZeros
  case mapped =>
    intro hm
    cases hbean : m.instantiate with
    | error reason => exact hsame reason hbean
    | ok bean =>
        rw [mapRow_eq_run hbean hs, mapRow_eq_run hbean hs, Row.targets_withZeros,
          Row.labels_withZeros, requests_withZeros hm]
  case askedLeft => exact fun hm left t right h => ⟨hleft left t right h, requests_of_firstNull hm h⟩
  case failsLeft =>
    intro hm left t right h bean hbean e hfails
    have herror := (failsBefore_iff h.split_withZeros).mp hfails
    rw [hrun bean hbean, hrun bean hbean, hleft left t right h,
      requests_of_firstNull hm h, finish_eq_error_iff, finish_eq_error_iff]
    exact ⟨Program.run_andThen_of_error herror, Program.run_andThen_of_error herror⟩
  case failsThere =>
    intro hm left t right h bean hbean hnone
    rw [hrun bean hbean, requests_of_firstNull hm h, finish_eq_error_iff]
    cases hr : ((m.requests (row.withZeros m.properties) left).run answer
        (memory.registry, bean)).1 with
    | error e => exact (hnone e ((failsBefore_iff h.split_withZeros).mpr hr)).elim
    | ok u => rw [Program.run_andThen_of_ok hr, Program.run]
  case without => exact Row.withZeros_eq_self
  case notInstantiated => exact hsame
  case spared => exact onlyCalls_requests m row _

/-- The number of a line, which is primitive. -/
def lineCount : Property (Int32 × Option String) where
  name := "count"
  field := .int32
  write line n := .ok (n, line.2)

/-- Its text, which may be missing. -/
def lineText : Property (Int32 × Option String) where
  name := "text"
  field := .optional .string
  write line s := .ok (line.1, s)

def lineMapper (defaultsNull : Bool) : BeanMapper (Int32 × Option String) where
  typeName := "Line"
  instantiate := .ok (7, some "")
  defaultsNull := defaultsNull
  properties := [lineCount, lineText]

/-- A row of NULLs, the text left of the number. -/
def nullLine : Row := ⟨[⟨"text", none⟩, ⟨"count", none⟩], [.null, .null]⟩

/-- Of such a row, the text keeps its NULL.  The number is the first that cannot: with the
default it is zero, and without it the row fails there, after the text was written. -/
theorem null_line_means_zero :
    let memory : Memory (Int32 × Option String) := ⟨.empty, none⟩
    (nullLine.withZeros (lineMapper true).properties).values = [.null, .int32 0] ∧
      (lineMapper true).mapRow memory (nullLine.withZeros (lineMapper true).properties) =
        (lineMapper true).mapRow memory nullLine ∧
      ((lineMapper true).mapRow memory nullLine).1 = .ok (0, none) ∧
      nullLine.FirstNull (lineMapper false).properties [⟨1, "text", lineText⟩]
        ⟨2, "count", lineCount⟩ [] ∧
      ((lineMapper false).mapRow memory nullLine).1 = .error (.typeMismatch
        "cannot write NULL column 'count' into primitive property 'count' of type i32") := by
  intro memory
  have hwith := null_means_zero (lineMapper true) .empty [] .empty nullLine
  have hwithout := null_means_zero (lineMapper false) .empty [] .empty nullLine
  have hfirst : nullLine.FirstNull (lineMapper false).properties [⟨1, "text", lineText⟩]
      ⟨2, "count", lineCount⟩ [] :=
    ⟨rfl, List.forall_mem_singleton.mpr fun h => Bool.false_ne_true h.2, ⟨rfl, rfl⟩⟩
  refine ⟨rfl, hwith.mapped rfl, rfl, hfirst, ?_⟩
  refine hwithout.failsThere rfl _ _ _ hfirst (7, some "") rfl fun e hfails => ?_
  -- The text is written, so nothing fails left of the number.
  have hleft := (failsBefore_iff hfirst.split_withZeros).mp hfails
  cases hleft

end BeanMapper

end SqlAccess
