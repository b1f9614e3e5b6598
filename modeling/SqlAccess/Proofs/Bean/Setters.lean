import SqlAccess.Proofs.Bean.Memory

/-!
# Which setters run

A column resolves to the first declared property that is not skipped and goes by its
label.  A row is mapped by running the setters of the resolved columns, one for each,
from left to right, up to the first column that fails.  What the row has in other
columns plays no part.

* `GoesBy` and `IsFirstNamed` — what a label resolves to;
* `Row.targets` — the resolved columns of a row, `mem_targets`;
* `BeanMapper.Writes` and `BeanMapper.Fails` — what may become of one of them;
* `BeanMapper.Ran` — the setters of some columns ran, one after the other;
* `BeanMapper.sets_resolved_columns` — **what becomes of a row**.
-/

namespace SqlAccess

variable {β : Type}

/-! ## Resolved columns -/

/-- The property is not skipped and goes by a label: that of its column if it was given
one, else its own name, in any case of letters. -/
structure GoesBy (p : Property β) (label : String) : Prop where
  isSkipped : p.isSkipped = false
  name : Text.lowerCase (p.column.getD p.name) = Text.lowerCase label

/-- The property is the first declared one that goes by a label. -/
def IsFirstNamed (properties : List (Property β)) (label : String) (p : Property β) : Prop :=
  GoesBy p label ∧ ∃ before after, properties = before ++ p :: after ∧
    ∀ q ∈ before, ¬ GoesBy q label

/-- A column with the property that it is written to.  Columns are counted from 1. -/
structure Target (β : Type) where
  index : Nat
  label : String
  property : Property β

/-- The columns of a row that resolve to a property, from left to right. -/
def Row.targets (properties : List (Property β)) (row : Row) : List (Target β) :=
  (row.labels.zipIdx 1).filterMap fun (label, index) =>
    (resolve? properties label).map (⟨index, label, ·⟩)

theorem isNamed_iff {p : Property β} {label : String} :
    p.isNamed label = true ↔ GoesBy p label := by
  simp only [Property.isNamed, Bool.and_eq_true, Bool.not_eq_true', Text.sameIgnoringCase_iff]
  exact ⟨fun ⟨hskipped, hname⟩ => ⟨hskipped, hname⟩, fun h => ⟨h.isSkipped, h.name⟩⟩

/-- A label resolves to the first declared property that goes by it. -/
theorem resolve?_eq_some_iff {properties : List (Property β)} {label : String}
    {p : Property β} : resolve? properties label = some p ↔ IsFirstNamed properties label p := by
  simp only [resolve?, List.find?_eq_some_iff_append, isNamed_iff, Bool.not_eq_true',
    Bool.eq_false_iff, ne_eq]
  exact Iff.rfl

theorem mem_targets {properties : List (Property β)} {row : Row} {t : Target β} :
    t ∈ row.targets properties ↔ 1 ≤ t.index ∧ row.labels[t.index - 1]? = some t.label ∧
      IsFirstNamed properties t.label t.property := by
  simp only [Row.targets, List.mem_filterMap, Prod.exists, List.mem_zipIdx_iff_le_and_getElem?_sub,
    Option.map_eq_some_iff, resolve?_eq_some_iff]
  constructor
  · rintro ⟨label, index, ⟨hindex, hlabel⟩, p, hp, rfl⟩
    exact ⟨hindex, hlabel, hp⟩
  · rintro ⟨hindex, hlabel, hp⟩
    exact ⟨t.label, t.index, ⟨hindex, hlabel⟩, t.property, hp, rfl⟩

/-- Each column is written once at most, and the left ones come first. -/
theorem targets_pairwise (properties : List (Property β)) (row : Row) :
    (row.targets properties).Pairwise (·.index < ·.index) := by
  have hindices : (row.labels.zipIdx 1).Pairwise (·.2 < ·.2) := by
    rw [← List.pairwise_map (f := Prod.snd), List.zipIdx_map_snd]
    exact List.pairwise_lt_range'
  refine hindices.filterMap _ fun a b hlt t ht u hu => ?_
  obtain ⟨p, -, rfl⟩ := Option.map_eq_some_iff.mp ht
  obtain ⟨q, -, rfl⟩ := Option.map_eq_some_iff.mp hu
  exact hlt

/-- What a row has in a column depends on its labels and its value there only. -/
theorem Row.get_congr {row row' : Row} (hlabels : row'.labels = row.labels) {index : Nat}
    (hvalue : row'.values[index - 1]? = row.values[index - 1]?) :
    row'.get index = row.get index := by
  have hlength : row'.columns.length = row.columns.length := by
    simpa [Row.labels] using congrArg List.length hlabels
  simp only [Row.get, Row.checkIndex, hlength, hvalue]

/-- A row has in a column what stands at its place. -/
theorem Row.get_of_getElem? {row : Row} {i : Nat} {v : Value} (hi : i < row.columns.length)
    (hv : row.values[i]? = some v) : row.get (i + 1) = .ok v := by
  have hin : ¬ (i + 1 = 0 ∨ row.columns.length < i + 1) := by omega
  simp only [Row.get, Row.checkIndex, if_neg hin, Nat.add_sub_cancel, hv]
  rfl

/-! ## One column -/

namespace BeanMapper

variable {m : BeanMapper β} {row : Row} {t : Target β} {s s' : Registry × β}

/-- The setter of a column ran: its value was fetched, replaced if it is a NULL that has
a value to stand for it, converted, and written. -/
inductive Writes (m : BeanMapper β) (row : Row) (t : Target β) :
    Registry × β → Registry × β → Prop where
  | intro {registry registry' : Registry} {bean bean' : β} {fetched value converted : Value}
      {x : t.property.field.Carrier}
      (hfetch : row.getAs t.index t.property.fetchKind = .ok fetched)
      (hdefault : m.replaceNull t.property t.label fetched = .ok value)
      (hconvert : convert t.property registry value = (.ok converted, registry'))
      (hfit : t.property.field.ofValue converted = .ok x)
      (hwrite : t.property.write bean x = .ok bean') :
      Writes m row t (registry, bean) (registry', bean')

/-- A column fails to be fetched, to be replaced, to be converted or to be written. -/
inductive Fails (m : BeanMapper β) (row : Row) (t : Target β) : Registry × β → Error → Prop where
  | fetch {s : Registry × β} {e : Error}
      (hfetch : row.getAs t.index t.property.fetchKind = .error e) : Fails m row t s e
  | default {s : Registry × β} {fetched : Value} {e : Error}
      (hfetch : row.getAs t.index t.property.fetchKind = .ok fetched)
      (hdefault : m.replaceNull t.property t.label fetched = .error e) : Fails m row t s e
  | conversion {registry registry' : Registry} {bean : β} {fetched value : Value} {e : Error}
      (hfetch : row.getAs t.index t.property.fetchKind = .ok fetched)
      (hdefault : m.replaceNull t.property t.label fetched = .ok value)
      (hconvert : convert t.property registry value = (.error e, registry')) :
      Fails m row t (registry, bean) e
  | unfit {registry registry' : Registry} {bean : β} {fetched value converted : Value} {e : Error}
      (hfetch : row.getAs t.index t.property.fetchKind = .ok fetched)
      (hdefault : m.replaceNull t.property t.label fetched = .ok value)
      (hconvert : convert t.property registry value = (.ok converted, registry'))
      (hfit : t.property.field.ofValue converted = .error e) : Fails m row t (registry, bean) e
  | refused {registry registry' : Registry} {bean : β} {fetched value converted : Value}
      {x : t.property.field.Carrier} {reason : String}
      (hfetch : row.getAs t.index t.property.fetchKind = .ok fetched)
      (hdefault : m.replaceNull t.property t.label fetched = .ok value)
      (hconvert : convert t.property registry value = (.ok converted, registry'))
      (hfit : t.property.field.ofValue converted = .ok x)
      (hwrite : t.property.write bean x = .error reason) :
      Fails m row t (registry, bean)
        (.internal s!"setter for '{t.property.name}' failed: {reason}")

/-- Fetching and writing a target. -/
def writeTarget (m : BeanMapper β) (row : Row) (t : Target β) (s : Registry × β) :
    Except Error β × Registry :=
  m.writeColumn row t.index t.label t.property s.1 s.2

/-- The value that is left of a column when it was fetched and replaced is converted. -/
theorem writeTarget_of_ok {fetched value : Value}
    (hfetch : row.getAs t.index t.property.fetchKind = .ok fetched)
    (hdefault : m.replaceNull t.property t.label fetched = .ok value) (s : Registry × β) :
    m.writeTarget row t s =
      ((convert t.property s.1 value).1 >>= t.property.assign s.2,
        (convert t.property s.1 value).2) := by
  have hvalue : (row.getAs t.index t.property.fetchKind >>= m.replaceNull t.property t.label) =
      .ok value := by
    rw [hfetch]
    exact hdefault
  simp only [writeTarget, writeColumn, hvalue]

/-- A converted value is written if it fits the field and the setter takes it. -/
theorem assign_of_fit {p : Property β} {converted : Value} {x : p.field.Carrier}
    (hfit : p.field.ofValue converted = .ok x) (bean : β) :
    p.assign bean converted = match p.write bean x with
      | .ok bean => .ok bean
      | .error reason => .error (.internal s!"setter for '{p.name}' failed: {reason}") := by
  simp only [Property.assign, hfit]
  rfl

theorem Writes.eq (h : Writes m row t s s') : m.writeTarget row t s = (.ok s'.2, s'.1) := by
  obtain ⟨hfetch, hdefault, hconvert, hfit, hwrite⟩ := h
  rw [writeTarget_of_ok hfetch hdefault]
  simp only [hconvert]
  refine Prod.ext ?_ rfl
  exact (assign_of_fit hfit _).trans (by rw [hwrite])

theorem Fails.eq {e : Error} (h : Fails m row t s e) : (m.writeTarget row t s).1 = .error e := by
  cases h with
  | fetch hfetch =>
      simp only [writeTarget, writeColumn, hfetch]
      rfl
  | default hfetch hdefault =>
      have hvalue : (row.getAs t.index t.property.fetchKind >>= m.replaceNull t.property t.label) =
          .error e := by
        rw [hfetch]
        exact hdefault
      simp only [writeTarget, writeColumn, hvalue]
  | conversion hfetch hdefault hconvert =>
      rw [writeTarget_of_ok hfetch hdefault]
      simp only [hconvert]
      rfl
  | unfit hfetch hdefault hconvert hfit =>
      rw [writeTarget_of_ok hfetch hdefault]
      simp only [hconvert]
      change t.property.assign _ _ = _
      simp only [Property.assign, hfit]
      rfl
  | refused hfetch hdefault hconvert hfit hwrite =>
      rw [writeTarget_of_ok hfetch hdefault]
      simp only [hconvert]
      exact (assign_of_fit hfit _).trans (by rw [hwrite])

/-- Either the setter of a column runs, or the column fails. -/
theorem writes_or_fails (m : BeanMapper β) (row : Row) (t : Target β) (s : Registry × β) :
    (∃ s', Writes m row t s s') ∨ ∃ e, Fails m row t s e := by
  obtain ⟨registry, bean⟩ := s
  cases hfetch : row.getAs t.index t.property.fetchKind with
  | error e => exact Or.inr ⟨e, .fetch hfetch⟩
  | ok fetched =>
  cases hdefault : m.replaceNull t.property t.label fetched with
  | error e => exact Or.inr ⟨e, .default hfetch hdefault⟩
  | ok value =>
  rcases hconvert : convert t.property registry value with ⟨e | converted, registry'⟩
  · exact Or.inr ⟨e, .conversion hfetch hdefault hconvert⟩
  cases hfit : t.property.field.ofValue converted with
  | error e => exact Or.inr ⟨e, .unfit hfetch hdefault hconvert hfit⟩
  | ok x =>
  cases hwrite : t.property.write bean x with
  | error reason => exact Or.inr ⟨_, .refused hfetch hdefault hconvert hfit hwrite⟩
  | ok bean' => exact Or.inl ⟨_, .intro hfetch hdefault hconvert hfit hwrite⟩

/-! ## Several columns -/

/-- The setters of some columns ran, one after the other. -/
inductive Ran (m : BeanMapper β) (row : Row) :
    List (Target β) → Registry × β → Registry × β → Prop where
  | nil (s : Registry × β) : Ran m row [] s s
  | cons {t : Target β} {rest : List (Target β)} {s s' s'' : Registry × β}
      (h : Writes m row t s s') (hrest : Ran m row rest s' s'') : Ran m row (t :: rest) s s''

/-- Writes columns up to the first that fails. -/
def writeTargets (m : BeanMapper β) (row : Row) : List (Target β) → Registry × β → Writing β
  | [], s => ⟨s.2, s.1, none⟩
  | t :: rest, s =>
    match m.writeTarget row t s with
    | (.ok bean, registry) => m.writeTargets row rest (registry, bean)
    | (.error e, registry) => ⟨s.2, registry, some e⟩

/-- Columns that resolve to nothing are passed over. -/
theorem writeAll_eq_writeTargets (m : BeanMapper β) (row : Row) (labels : List String)
    (index : Nat) (s : Registry × β) :
    m.writeAll row index (labels.zip (labels.map (resolve? m.properties))) s.1 s.2 =
      m.writeTargets row ((labels.zipIdx index).filterMap fun (label, index) =>
        (resolve? m.properties label).map (⟨index, label, ·⟩)) s := by
  induction labels generalizing index s with
  | nil => rfl
  | cons label rest ih =>
      rw [List.map_cons, List.zip_cons_cons, List.zipIdx_cons]
      cases hp : resolve? m.properties label with
      | none =>
          rw [List.filterMap_cons_none (by simp [hp])]
          exact ih (index + 1) s
      | some p =>
          rw [List.filterMap_cons_some (b := ⟨index, label, p⟩) (by simp [hp])]
          simp only [writeAll, writeTargets, writeTarget]
          rcases m.writeColumn row index label p s.1 s.2 with ⟨e | bean, registry⟩
          · rfl
          · exact ih (index + 1) (registry, bean)

theorem Writes.unique {s'' : Registry × β} (h : Writes m row t s s') (h' : Writes m row t s s'') :
    s' = s'' := by
  have heq := h.eq.symm.trans h'.eq
  exact Prod.ext (Prod.ext_iff.mp heq).2 (Except.ok.inj (Prod.ext_iff.mp heq).1)

theorem Writes.not_fails {e : Error} (h : Writes m row t s s') : ¬ Fails m row t s e := by
  intro hf
  have heq := hf.eq
  rw [h.eq] at heq
  cases heq

theorem writeTargets_of_writes (h : Writes m row t s s') (rest : List (Target β)) :
    m.writeTargets row (t :: rest) s = m.writeTargets row rest s' := by
  simp only [writeTargets, h.eq]

theorem writeTargets_of_fails {e : Error} (h : Fails m row t s e) (rest : List (Target β)) :
    (m.writeTargets row (t :: rest) s).result = .error e := by
  have heq := h.eq
  simp only [writeTargets]
  rcases hr : m.writeTarget row t s with ⟨result, registry⟩
  rw [hr] at heq
  cases heq
  rfl

/-- Columns are written just if all their setters run. -/
theorem writeTargets_eq_ok_iff {targets : List (Target β)} {bean : β} :
    (m.writeTargets row targets s).result = .ok bean ↔
      ∃ registry, Ran m row targets s (registry, bean) := by
  induction targets generalizing s with
  | nil =>
      constructor
      · rintro ⟨⟩
        exact ⟨s.1, .nil s⟩
      · rintro ⟨registry, ⟨⟩⟩
        rfl
  | cons t rest ih =>
      rcases writes_or_fails m row t s with ⟨s', hw⟩ | ⟨e, hf⟩
      · rw [writeTargets_of_writes hw, ih]
        constructor
        · rintro ⟨registry, hran⟩
          exact ⟨registry, .cons hw hran⟩
        · rintro ⟨registry, hran⟩
          cases hran with
          | cons hw' hrest => exact ⟨registry, hw.unique hw' ▸ hrest⟩
      · rw [writeTargets_of_fails hf]
        constructor
        · rintro ⟨⟩
        · rintro ⟨registry, hran⟩
          cases hran with
          | cons hw hrest => exact (hw.not_fails hf).elim

/-- They fail just if one of them does, after the setters of those on its left ran. -/
theorem writeTargets_eq_error_iff {targets : List (Target β)} {e : Error} :
    (m.writeTargets row targets s).result = .error e ↔
      ∃ left t right s', targets = left ++ t :: right ∧ Ran m row left s s' ∧
        Fails m row t s' e := by
  induction targets generalizing s with
  | nil =>
      constructor
      · rintro ⟨⟩
      · rintro ⟨left, t, right, s', h, -, -⟩
        exact (List.append_ne_nil_of_right_ne_nil left (List.cons_ne_nil t right) h.symm).elim
  | cons first rest ih =>
      constructor
      · intro h
        rcases writes_or_fails m row first s with ⟨s', hw⟩ | ⟨e', hf⟩
        · rw [writeTargets_of_writes hw] at h
          obtain ⟨left, t, right, s'', rfl, hran, hfails⟩ := ih.mp h
          exact ⟨first :: left, t, right, s'', rfl, .cons hw hran, hfails⟩
        · rw [writeTargets_of_fails hf] at h
          cases h
          exact ⟨[], first, rest, s, rfl, .nil s, hf⟩
      · rintro ⟨left, t, right, s', h, hran, hfails⟩
        cases hran with
        | nil =>
            cases h
            exact writeTargets_of_fails hfails rest
        | cons hw hrest =>
            cases h
            rw [writeTargets_of_writes hw]
            exact ih.mpr ⟨_, t, right, s', rfl, hrest, hfails⟩

/-- What a setter leaves a mark of, setters that ran left their marks of, in order. -/
theorem Ran.marks {γ : Type} {marks : β → List γ} {mark : Property β → γ}
    {targets : List (Target β)}
    (hmark : ∀ t ∈ targets, ∀ bean x bean', t.property.write bean x = .ok bean' →
      marks bean' = marks bean ++ [mark t.property])
    (h : Ran m row targets s s') :
    marks s'.2 = marks s.2 ++ targets.map (mark ·.property) := by
  induction h with
  | nil s => simp
  | @cons t rest s s' s'' hw hrest ih =>
      rw [ih fun t ht => hmark t (List.mem_cons_of_mem _ ht)]
      obtain ⟨hfetch, hdefault, hconvert, hfit, hwrite⟩ := hw
      simp [hmark t List.mem_cons_self _ _ _ hwrite]

/-- A row that has the same in the resolved columns is written alike. -/
theorem writeTargets_congr {row' : Row} {targets : List (Target β)}
    (h : ∀ t ∈ targets, row'.get t.index = row.get t.index) (s : Registry × β) :
    m.writeTargets row' targets s = m.writeTargets row targets s := by
  induction targets generalizing s with
  | nil => rfl
  | cons t rest ih =>
      have hsame : m.writeTarget row' t s = m.writeTarget row t s := by
        simp only [writeTarget, writeColumn, Row.getAs, h t List.mem_cons_self]
      have hrest := ih fun t ht => h t (List.mem_cons_of_mem _ ht)
      simp only [writeTargets, hsame, hrest]

/-! ## Rows -/

/-- What is said of a row that a mapper maps onto a fresh object. -/
structure SetsColumns (m : BeanMapper β) (memory : Memory β) (row : Row) (bean : β) : Prop where
  /-- The columns that are written are those whose labels resolve, each to the first
  declared property that is not skipped and goes by the label. -/
  targets : ∀ t : Target β, t ∈ row.targets m.properties ↔
    1 ≤ t.index ∧ row.labels[t.index - 1]? = some t.label ∧
      IsFirstNamed m.properties t.label t.property
  /-- They are written from left to right, each once. -/
  order : (row.targets m.properties).Pairwise (·.index < ·.index)
  /-- The row is mapped just if all their setters run on the fresh object. -/
  success : ∀ result, (m.mapRow memory row).1 = .ok result ↔
    ∃ registry, Ran m row (row.targets m.properties) (memory.registry, bean) (registry, result)
  /-- If every setter leaves a mark, the object then bears those of the properties that
  the columns resolve to. -/
  marks : ∀ (γ : Type) (marks : β → List γ) (mark : Property β → γ),
    (∀ p ∈ m.properties, ∀ b x b', p.write b x = .ok b' → marks b' = marks b ++ [mark p]) →
      ∀ result, (m.mapRow memory row).1 = .ok result →
        marks result = marks bean ++ (row.targets m.properties).map (mark ·.property)
  /-- It fails just if one of them does, after the setters of those on its left ran. -/
  failure : ∀ e, (m.mapRow memory row).1 = .error e ↔
    ∃ left t right s, row.targets m.properties = left ++ t :: right ∧
      Ran m row left (memory.registry, bean) s ∧ Fails m row t s e
  /-- What is in the other columns makes no difference, nor whether anything is. -/
  others : ∀ row' : Row, row'.labels = row.labels →
    (∀ t ∈ row.targets m.properties, row'.values[t.index - 1]? = row.values[t.index - 1]?) →
      m.mapRow memory row' = m.mapRow memory row

/-- A row is mapped by writing its resolved columns. -/
theorem mapRow_eq_writeTargets {memory : Memory β} {bean : β} (hbean : m.instantiate = .ok bean)
    (hs : memory.IsSound m) (row : Row) :
    m.mapRow memory row =
      let w := m.writeTargets row (row.targets m.properties) (memory.registry, bean)
      (w.result, ⟨w.registry, some (.resolve m.properties row.labels)⟩,
        if memory.labels? = some row.labels then []
        else (Bindings.resolve m.properties row.labels).unmatched) := by
  have hwrite := m.writeAll_eq_writeTargets row row.labels 1 (memory.registry, bean)
  rw [mapRow_of_ok hbean hs]
  simp only [Bindings.resolve, hwrite]
  rfl

/-- **The setters of the resolved columns run**, one for each, from left to right, up to
the first that fails, whatever rows were mapped before and whatever converters there
are. -/
theorem sets_resolved_columns (m : BeanMapper β) (start : Registry) (earlier : List Row)
    (registry : Registry) (row : Row) {bean : β} (hbean : m.instantiate = .ok bean) :
    SetsColumns m ⟨registry, (m.mapRows ⟨start, none⟩ earlier).2.bindings⟩ row bean := by
  generalize hmemory : (⟨registry, (m.mapRows ⟨start, none⟩ earlier).2.bindings⟩ : Memory β) = memory
  have hs : memory.IsSound m := by
    have hkeeps := keeps_mapRows (Memory.Keeps.new m start) earlier
    rw [← hmemory]
    exact hkeeps.bindings
  have hmap := mapRow_eq_writeTargets hbean hs
  constructor
  case targets => exact fun t => mem_targets
  case order => exact targets_pairwise m.properties row
  case success =>
    intro result
    rw [hmap]
    exact writeTargets_eq_ok_iff
  case marks =>
    intro γ marks mark hmark result hresult
    rw [hmap] at hresult
    obtain ⟨r, hran⟩ := writeTargets_eq_ok_iff.mp hresult
    refine hran.marks fun t ht => hmark t.property ?_
    obtain ⟨-, -, -, before, after, hproperties, -⟩ := mem_targets.mp ht
    rw [hproperties]
    exact List.mem_append_right before List.mem_cons_self
  case failure =>
    intro e
    rw [hmap]
    exact writeTargets_eq_error_iff
  case others =>
    intro row' hlabels hvalues
    have htargets : row'.targets m.properties = row.targets m.properties := by
      simp only [Row.targets, hlabels]
    have hwrite := writeTargets_congr (m := m) fun t ht => Row.get_congr hlabels (hvalues t ht)
    rw [hmap, hmap, htargets, hwrite, hlabels]

/-- The first property is skipped, so the first column resolves to the second property;
the second column resolves to nothing; the third has no value in the row. -/
theorem sets_resolved_columns_of_short_row :
    let set (name : String) : List String → Bool → Except String (List String) :=
      fun names _ => .ok (names ++ [name])
    let m : BeanMapper (List String) :=
      { typeName := "Names", instantiate := .ok []
        properties :=
          [{ name := "id", field := .bool, write := set "id", isSkipped := true },
            { name := "Id", field := .bool, write := set "Id" },
            { name := "sum", field := .bool, write := set "sum", column := some "total" }] }
    let row (values : List Value) : Row := ⟨[⟨"ID", none⟩, ⟨"note", none⟩, ⟨"TOTAL", none⟩], values⟩
    m.instantiate = .ok [] ∧
      SetsColumns m ⟨.empty, (m.mapRows ⟨.empty, none⟩ [row []]).2.bindings⟩ (row [.bool true]) [] ∧
      ((row [.bool true]).targets m.properties).map (fun t => (t.index, t.property.name)) =
        [(1, "Id"), (3, "sum")] ∧
      (m.mapRow ⟨.empty, none⟩ (row [.bool true])).1.toOption = none ∧
      (m.mapRow ⟨.empty, none⟩ (row [.bool true, .null, .null])).1.toOption =
        some ["Id", "sum"] := by
  intro set m row
  exact ⟨rfl, sets_resolved_columns m .empty [row []] .empty (row [.bool true]) rfl,
    by decide +kernel, by decide +kernel, by decide +kernel⟩

end BeanMapper

end SqlAccess
