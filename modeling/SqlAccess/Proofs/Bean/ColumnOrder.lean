import Mathlib.Data.List.Nodup
import SqlAccess.Proofs.Bean.Requests

/-!
# The order of columns and the case of labels

A column that is written has nothing to do with the others: its property depends on its
label, ignoring case, and the field on its value and on a converter, which is the same
before and after other columns were converted.  If setters decide by the field alone
whether they take it, all columns can be written or one of them cannot, whatever order
they come in; and the same fields are written, in the order of the columns.

* `Row.resolved` — the values of a row with the properties they go to;
* `BeanMapper.field?` — what a value becomes for a property;
* `BeanMapper.mapRow_succeeds_iff` — a row is mapped just if each of its columns alone
  can be written;
* `BeanMapper.Ran.settled` — what is written then;
* `BeanMapper.columns_in_any_order` — **rows with the same columns are mapped alike**.
-/

namespace SqlAccess

variable {β : Type}

/-! ## Columns with their values -/

/-- Labels that differ in case resolve to the same property. -/
theorem resolve?_congr (properties : List (Property β)) {label label' : String}
    (h : Text.sameIgnoringCase label' label = true) :
    resolve? properties label' = resolve? properties label := by
  have hname : ∀ p : Property β, p.isNamed label' = p.isNamed label := fun p => by
    simp only [Property.isNamed, Text.sameIgnoringCase, Text.sameIgnoringCase_iff.mp h]
  simp only [resolve?, hname]

namespace Row

/-- The row has one value for each of its columns. -/
def IsFull (row : Row) : Prop := row.values.length = row.columns.length

/-- The values of a row with the labels of their columns. -/
def cells (row : Row) : List (String × Value) := row.labels.zip row.values

/-- The same value with a label that may differ in case. -/
def SameCell (c' c : String × Value) : Prop := Text.sameIgnoringCase c'.1 c.1 = true ∧ c'.2 = c.2

/-- The row has the columns of another in any order, with their values; its labels may
differ in case. -/
def Rearranges (row' row : Row) : Prop :=
  ∃ cells : List (String × Value), cells.Perm row.cells ∧ List.Forall₂ SameCell row'.cells cells

/-- The values among some with labels that go to a property, with that property. -/
def resolveCells (properties : List (Property β)) (cells : List (String × Value)) :
    List (Property β × Value) :=
  cells.filterMap fun c => (resolve? properties c.1).map (·, c.2)

/-- The values of a row with the properties that they are written to. -/
def resolved (properties : List (Property β)) (row : Row) : List (Property β × Value) :=
  resolveCells properties row.cells

/-- The target is the column of a property with a value. -/
def Holds (row : Row) (t : Target β) (a : Property β × Value) : Prop :=
  t.property = a.1 ∧ row.get t.index = .ok a.2

/-- No two columns of the row resolve to the same property. -/
def ResolvesOnce (properties : List (Property β)) (row : Row) : Prop :=
  ((row.targets properties).map (·.property)).Nodup

variable {properties : List (Property β)} {row row' : Row}

theorem resolveCells_congr {cells' cells : List (String × Value)}
    (h : List.Forall₂ SameCell cells' cells) :
    resolveCells properties cells' = resolveCells properties cells := by
  unfold resolveCells
  induction h with
  | nil => rfl
  | cons hcell _ ih =>
      simp only [List.filterMap_cons, resolve?_congr properties hcell.1, hcell.2, ih]

/-- The same columns in any order go to the same properties. -/
theorem resolved_perm (h : row'.Rearranges row) :
    (row'.resolved properties).Perm (row.resolved properties) := by
  obtain ⟨cells, hperm, hcells⟩ := h
  rw [resolved, resolveCells_congr hcells]
  exact hperm.filterMap _

theorem mem_of_mem_resolved {a : Property β × Value} (h : a ∈ row.resolved properties) :
    a.1 ∈ properties := by
  obtain ⟨c, -, hc⟩ := List.mem_filterMap.mp h
  obtain ⟨p, hp, rfl⟩ := Option.map_eq_some_iff.mp hc
  exact List.mem_of_find?_eq_some hp

/-- The columns from a place on hold the values that are left. -/
theorem holds_from (labels : List String) (values : List Value) (place : Nat)
    (hlength : values.length = labels.length)
    (hget : ∀ i v, values[i]? = some v → row.get (place + i + 1) = .ok v) :
    List.Forall₂ row.Holds
      ((labels.zipIdx (place + 1)).filterMap fun (label, index) =>
        (resolve? properties label).map (⟨index, label, ·⟩))
      (resolveCells properties (labels.zip values)) := by
  induction labels generalizing values place with
  | nil => exact .nil
  | cons label labels ih =>
      obtain _ | ⟨v, values⟩ := values
      · cases hlength
      · have hrest := ih values (place + 1) (Nat.succ.inj hlength) fun i w hw => by
          rw [Nat.add_right_comm place]
          exact hget (i + 1) w hw
        rw [List.zipIdx_cons, List.zip_cons_cons, resolveCells]
        cases hp : resolve? properties label with
        | none =>
            rw [List.filterMap_cons_none (by simp [hp]), List.filterMap_cons_none (by simp [hp])]
            exact hrest
        | some p =>
            rw [List.filterMap_cons_some (b := ⟨place + 1, label, p⟩) (by simp [hp]),
              List.filterMap_cons_some (b := (p, v)) (by simp [hp])]
            exact .cons ⟨rfl, hget 0 v rfl⟩ hrest

/-- The targets of a full row hold its resolved values. -/
theorem targets_hold (h : row.IsFull) :
    List.Forall₂ row.Holds (row.targets properties) (row.resolved properties) := by
  have hlength : row.values.length = row.labels.length := by
    rw [labels, List.length_map]
    exact h
  refine holds_from row.labels row.values 0 hlength fun i v hv => ?_
  have hi : i < row.columns.length := h ▸ (List.getElem?_eq_some_iff.mp hv).1
  rw [Nat.zero_add]
  exact get_of_getElem? hi hv

theorem map_property_targets (h : row.IsFull) :
    (row.targets properties).map (·.property) = (row.resolved properties).map Prod.fst := by
  have hsame : List.Forall₂ (· = ·) ((row.targets properties).map (·.property))
      ((row.resolved properties).map Prod.fst) :=
    List.forall₂_map_left_iff.mpr <| List.forall₂_map_right_iff.mpr <|
      (targets_hold h).imp fun _ _ hholds => hholds.1
  rwa [List.forall₂_eq_eq_eq] at hsame

theorem resolvesOnce_of_rearranges (hrow' : row'.IsFull) (hrow : row.IsFull)
    (h : row'.Rearranges row) (honce : row.ResolvesOnce properties) :
    row'.ResolvesOnce properties := by
  rw [ResolvesOnce, map_property_targets hrow] at honce
  rw [ResolvesOnce, map_property_targets hrow']
  exact ((resolved_perm h).map Prod.fst).nodup_iff.mpr honce

end Row

/-! ## What is written -/

/-- A property with a field for it. -/
structure Written (β : Type) where
  property : Property β
  field : property.field.Carrier

/-- The field that is to be written, if a request is to write one. -/
def Request.written? : Request β → Option (Written β)
  | .convert .. => none
  | .write p x => some ⟨p, x⟩

/-- Whether the setter takes a field depends on the field only. -/
def Property.DecidesByField (p : Property β) : Prop :=
  ∀ x bean bean' result, p.write bean x = .ok result → ∃ result', p.write bean' x = .ok result'

namespace BeanMapper

/-- A value with a zero in the place of NULL, unless that is refused. -/
def replaced? (m : BeanMapper β) (p : Property β) (v : Value) : Option Value :=
  match v, p.field.zero? with
  | .null, some zero => if m.defaultsNull then some zero else none
  | v, _ => some v

/-- What a value in a column becomes for its property, unless it fails. -/
def field? (m : BeanMapper β) (registry : Registry) (p : Property β) (v : Value) :
    Option p.field.Carrier := do
  let fetched ← (v.coerce p.fetchKind).toOption
  let value ← m.replaced? p fetched
  let converted ← (convert p registry value).1.toOption
  (p.field.ofValue converted).toOption

/-- The property's setter takes what a value becomes for it. -/
def Takes (m : BeanMapper β) (registry : Registry) (a : Property β × Value) : Prop :=
  ∃ x, m.field? registry a.1 a.2 = some x ∧ ∃ bean result, a.1.write bean x = .ok result

/-- The fields that values become for their properties. -/
def fields (m : BeanMapper β) (registry : Registry) (resolved : List (Property β × Value)) :
    List (Written β) :=
  resolved.filterMap fun a => (m.field? registry a.1 a.2).map (⟨a.1, ·⟩)

/-- The fields that a program asks to write, in order, if a mapper answers it. -/
def written {α : Type} (program : RequestProgram β α) (s : Registry × β) : List (Written β) :=
  (program.calls answer s).filterMap Request.written?

/-- Writes fields into an object, one after the other. -/
def writeFields (bean : β) (ws : List (Written β)) : Except String β :=
  ws.foldlM (fun bean w => w.property.write bean w.field) bean

variable {m : BeanMapper β} {registry r r' : Registry} {row : Row} {t : Target β}
variable {s s' : Registry × β} {a : Property β × Value}

theorem toOption_eq_some_iff {ε α : Type} {e : Except ε α} {a : α} :
    e.toOption = some a ↔ e = .ok a := by
  cases e with
  | error _ => exact iff_of_false nofun nofun
  | ok _ => simp only [Except.toOption, Option.some.injEq, Except.ok.injEq]

theorem toOption_replaceNull (p : Property β) (label : String) (v : Value) :
    (m.replaceNull p label v).toOption = m.replaced? p v := by
  unfold replaceNull replaced?
  cases v with
  | null =>
      cases p.field.zero? with
      | none => rfl
      | some zero => cases m.defaultsNull <;> rfl
  | _ => rfl

/-- What a value becomes does not depend on registries that make no difference. -/
theorem field?_congr {p : Property β} (hp : p ∈ m.properties) (h : m.SameInstances r r')
    (v : Value) : m.field? r p v = m.field? r' p v := by
  simp only [field?, convert_fst hp h]

theorem fields_cons {x : a.1.field.Carrier} (h : m.field? registry a.1 a.2 = some x)
    (rest : List (Property β × Value)) :
    m.fields registry (a :: rest) = ⟨a.1, x⟩ :: m.fields registry rest :=
  List.filterMap_cons_some (by rw [h]; rfl)

theorem writeFields_cons {p : Property β} {x : p.field.Carrier} {bean bean' : β}
    (h : p.write bean x = .ok bean') (rest : List (Written β)) :
    writeFields bean (⟨p, x⟩ :: rest) = writeFields bean' rest := by
  simp only [writeFields, List.foldlM_cons, h]
  rfl

/-! ## One column -/

theorem written_bind {α γ : Type} (program : RequestProgram β α) (f : α → RequestProgram β γ)
    (s : Registry × β) :
    written (program.bind f) s = written program s ++
      written (f (program.run answer s).1) (program.run answer s).2 := by
  rw [written, Program.calls_bind, List.filterMap_append]
  rfl

theorem written_askToConvert (p : Property β) (v : Value) (s : Registry × β) :
    written (p.askToConvert v) s = [] := by
  unfold Property.askToConvert
  cases p.converter with
  | none => rfl
  | some t => rfl

theorem written_askToWrite {p : Property β} {v : Value} {x : p.field.Carrier}
    (hfit : p.field.ofValue v = .ok x) (s : Registry × β) :
    written (p.askToWrite v) s = [⟨p, x⟩] := by
  simp only [Property.askToWrite, hfit]
  rfl

/-- A column that is written asks for its field and nothing else to be written. -/
theorem Writes.field (h : Writes m row t s s') (ha : row.Holds t a) :
    ∃ x : a.1.field.Carrier, m.field? s.1 a.1 a.2 = some x ∧ a.1.write s.2 x = .ok s'.2 ∧
      written (m.columnRequests row t) s = [⟨a.1, x⟩] := by
  obtain ⟨p, v⟩ := a
  obtain ⟨rfl, hget⟩ := ha
  obtain ⟨hfetch, hdefault, hconvert, hfit, hwrite⟩ := h
  rename_i registry registry' bean bean' fetched value converted x
  have hcoerce : v.coerce t.property.fetchKind = .ok fetched := by
    rw [Row.getAs, hget] at hfetch
    exact hfetch
  have hreplaced : m.replaced? t.property fetched = some value := by
    rw [← toOption_replaceNull t.property t.label, hdefault]
    rfl
  have hprepare : m.prepare row t = .ok value := by
    rw [prepare, hfetch]
    exact hdefault
  refine ⟨x, ?_, hwrite, ?_⟩
  · simp only [field?, hcoerce, Except.toOption, Option.bind_eq_bind, Option.bind_some,
      hreplaced, hconvert, hfit]
  · simp only [columnRequests, hprepare, Program.andThen]
    rw [written_bind, written_askToConvert, run_askToConvert]
    simp only [hconvert]
    exact written_askToWrite hfit _

theorem Writes.sameInstances (hm : m.NamesTypes) (ht : t.property ∈ m.properties)
    (h : Writes m row t s s') : m.SameInstances s'.1 s.1 := by
  obtain ⟨-, -, hconvert, -, -⟩ := h
  rename_i registry registry' _ _ _ value converted _
  have hkept : m.SameInstances (convert t.property registry value).2 registry :=
    convert_snd hm ht registry value
  rwa [hconvert] at hkept

/-- A value that becomes a field which the setter takes is written. -/
theorem writes_of_field? (ha : row.Holds t a) {x : a.1.field.Carrier} {bean : β}
    (hx : m.field? s.1 a.1 a.2 = some x) (hwrite : a.1.write s.2 x = .ok bean) :
    ∃ s', Writes m row t s s' := by
  obtain ⟨p, v⟩ := a
  obtain ⟨rfl, hget⟩ := ha
  simp only [field?, Option.bind_eq_bind, Option.bind_eq_some_iff, toOption_eq_some_iff]
    at hx
  obtain ⟨fetched, hfetch, value, hreplaced, converted, hconverted, hfit⟩ := hx
  have hfetch : row.getAs t.index t.property.fetchKind = .ok fetched := by
    rw [Row.getAs, hget]
    exact hfetch
  have hdefault : m.replaceNull t.property t.label fetched = .ok value := by
    rwa [← toOption_replaceNull t.property t.label, toOption_eq_some_iff] at hreplaced
  exact ⟨(_, bean), .intro hfetch hdefault (Prod.ext hconverted rfl) hfit hwrite⟩

/-! ## Several columns -/

variable {targets : List (Target β)} {resolved : List (Property β × Value)}

/-- What is said of columns that hold some values and were all written. -/
structure Settled (m : BeanMapper β) (registry : Registry) (resolved : List (Property β × Value))
    (row : Row) (targets : List (Target β)) (s s' : Registry × β) : Prop where
  /-- The setters take what the values become. -/
  takes : ∀ a ∈ resolved, m.Takes registry a
  /-- Just that is what the columns ask to write. -/
  written : written (m.requests row targets) s = m.fields registry resolved
  /-- And it makes the object what it is. -/
  result : writeFields s.2 (m.fields registry resolved) = .ok s'.2

/-- Columns that were written are settled. -/
theorem Ran.settled (hm : m.NamesTypes) (hran : Ran m row targets s s')
    (hsame : m.SameInstances s.1 registry) (hholds : List.Forall₂ row.Holds targets resolved)
    (hmem : ∀ a ∈ resolved, a.1 ∈ m.properties) :
    Settled m registry resolved row targets s s' := by
  induction hran generalizing resolved with
  | nil s =>
      cases hholds
      exact ⟨List.forall_mem_nil _, rfl, rfl⟩
  | @cons t rest s s₁ s' hw hrest ih =>
      obtain _ | ⟨hfirst, hholds⟩ := hholds
      rename_i a resolved
      obtain ⟨ha, hmem⟩ := List.forall_mem_cons.mp hmem
      obtain ⟨x, hx, hwrite, hwritten⟩ := hw.field hfirst
      rw [field?_congr ha hsame] at hx
      have hkept := (hw.sameInstances hm (hfirst.1 ▸ ha)).trans hsame
      have hsettled := ih hkept hholds hmem
      constructor
      case takes => exact List.forall_mem_cons.mpr ⟨⟨x, hx, _, _, hwrite⟩, hsettled.takes⟩
      case written =>
        rw [requests, Program.andThen, written_bind, hwritten, run_columnRequests, hw.eq,
          fields_cons hx]
        exact congrArg (⟨a.1, x⟩ :: ·) hsettled.written
      case result =>
        rw [fields_cons hx, writeFields_cons hwrite]
        exact hsettled.result

/-- Columns are written if each of their values can be, whatever the others are. -/
theorem ran_of_takes (hm : m.NamesTypes) (hsetters : ∀ p ∈ m.properties, p.DecidesByField)
    (hsame : m.SameInstances s.1 registry) (hholds : List.Forall₂ row.Holds targets resolved)
    (hmem : ∀ a ∈ resolved, a.1 ∈ m.properties) (htakes : ∀ a ∈ resolved, m.Takes registry a) :
    ∃ s', Ran m row targets s s' := by
  induction hholds generalizing s with
  | nil => exact ⟨s, .nil s⟩
  | @cons t a rest resolved hfirst _ ih =>
      obtain ⟨ha, hmem⟩ := List.forall_mem_cons.mp hmem
      obtain ⟨⟨x, hx, bean, result, hwrite⟩, htakes⟩ := List.forall_mem_cons.mp htakes
      rw [← field?_congr ha hsame] at hx
      obtain ⟨result', hwrite⟩ := hsetters a.1 ha x bean s.2 result hwrite
      obtain ⟨s₁, hw⟩ := writes_of_field? hfirst hx hwrite
      have hkept := (hw.sameInstances hm (hfirst.1 ▸ ha)).trans hsame
      obtain ⟨s', hrest⟩ := ih hkept hmem htakes
      exact ⟨s', .cons hw hrest⟩

/-- Values that setters take make one field each. -/
theorem map_property_fields (h : ∀ a ∈ resolved, m.Takes registry a) :
    (m.fields registry resolved).map (·.property) = resolved.map Prod.fst := by
  induction resolved with
  | nil => rfl
  | cons a rest ih =>
      obtain ⟨⟨x, hx, -⟩, hrest⟩ := List.forall_mem_cons.mp h
      rw [fields_cons hx, List.map_cons, List.map_cons, ih hrest]

/-! ## Rows -/

/-- The fields that are written as a row is mapped onto an object, in order. -/
def rowFields (m : BeanMapper β) (memory : Memory β) (row : Row) (bean : β) : List (Written β) :=
  written (m.requests row (row.targets m.properties)) (memory.registry, bean)

variable {memory : Memory β} {bean result : β}

theorem mapRow_eq_ok_iff (hbean : m.instantiate = .ok bean) (hs : memory.IsSound m) :
    (m.mapRow memory row).1 = .ok result ↔
      ∃ r, Ran m row (row.targets m.properties) (memory.registry, bean) (r, result) := by
  rw [mapRow_eq_writeTargets hbean hs]
  exact writeTargets_eq_ok_iff

/-- Where a row is mapped, its columns are settled. -/
theorem settled_of_mapRow (hm : m.NamesTypes) (hmemory : memory.Keeps m registry)
    (hrow : row.IsFull) (hbean : m.instantiate = .ok bean)
    (hresult : (m.mapRow memory row).1 = .ok result) :
    ∃ r, Settled m registry (row.resolved m.properties) row (row.targets m.properties)
      (memory.registry, bean) (r, result) := by
  obtain ⟨r, hran⟩ := (mapRow_eq_ok_iff hbean hmemory.bindings).mp hresult
  exact ⟨r, hran.settled hm (hmemory.registry hm) (Row.targets_hold hrow) fun _ =>
    Row.mem_of_mem_resolved⟩

/-- A row is mapped just if the setters take what its values become. -/
theorem mapRow_succeeds_iff (hm : m.NamesTypes)
    (hsetters : ∀ p ∈ m.properties, p.DecidesByField) (hmemory : memory.Keeps m registry)
    (hrow : row.IsFull) (hbean : m.instantiate = .ok bean) :
    (∃ result, (m.mapRow memory row).1 = .ok result) ↔
      ∀ a ∈ row.resolved m.properties, m.Takes registry a := by
  constructor
  · rintro ⟨result, hresult⟩
    obtain ⟨_, hsettled⟩ := settled_of_mapRow hm hmemory hrow hbean hresult
    exact hsettled.takes
  · intro htakes
    obtain ⟨⟨r, result⟩, hran⟩ := ran_of_takes (s := (memory.registry, bean)) hm hsetters
      (hmemory.registry hm) (Row.targets_hold hrow) (fun _ => Row.mem_of_mem_resolved) htakes
    exact ⟨result, (mapRow_eq_ok_iff hbean hmemory.bindings).mpr ⟨r, hran⟩⟩

/-- What is said of a row that was mapped onto a fresh object. -/
structure WrittenInOrder (m : BeanMapper β) (memory : Memory β) (row : Row) (bean result : β) :
    Prop where
  /-- Each of the resolved columns wrote a field of its property, in their order. -/
  order : (m.rowFields memory row bean).map (·.property) =
    (row.targets m.properties).map (·.property)
  /-- No property was written twice. -/
  once : ((m.rowFields memory row bean).map (·.property)).Nodup
  /-- The object is what the fields make of the fresh one. -/
  result : writeFields bean (m.rowFields memory row bean) = .ok result

theorem writtenInOrder (hm : m.NamesTypes) (hmemory : memory.Keeps m registry)
    (hrow : row.IsFull) (honce : row.ResolvesOnce m.properties) (hbean : m.instantiate = .ok bean)
    (hresult : (m.mapRow memory row).1 = .ok result) :
    WrittenInOrder m memory row bean result := by
  obtain ⟨r, hsettled⟩ := settled_of_mapRow hm hmemory hrow hbean hresult
  have hfields : m.rowFields memory row bean = _ := hsettled.written
  have horder : (m.rowFields memory row bean).map (·.property) =
      (row.targets m.properties).map (·.property) := by
    rw [hfields, map_property_fields hsettled.takes, Row.map_property_targets hrow]
  constructor
  case order => exact horder
  case once => exact horder ▸ honce
  case result => exact hfields ▸ hsettled.result

/-- What is said of rows with the same columns in any order, `row'` and `row`, each with
what a mapper kept before it. -/
structure MappedAlike (m : BeanMapper β) (memory' : Memory β) (row' : Row) (memory : Memory β)
    (row : Row) : Prop where
  /-- Both are mapped or neither is. -/
  success : (∃ result', (m.mapRow memory' row').1 = .ok result') ↔
    ∃ result, (m.mapRow memory row).1 = .ok result
  /-- Then the same fields are written to the same properties. -/
  same : ∀ bean result' result, m.instantiate = .ok bean →
    (m.mapRow memory' row').1 = .ok result' → (m.mapRow memory row).1 = .ok result →
      (m.rowFields memory' row' bean).Perm (m.rowFields memory row bean)
  /-- One has them in the order of its columns, -/
  order' : ∀ bean result', m.instantiate = .ok bean → (m.mapRow memory' row').1 = .ok result' →
    WrittenInOrder m memory' row' bean result'
  /-- and so has the other. -/
  order : ∀ bean result, m.instantiate = .ok bean → (m.mapRow memory row).1 = .ok result →
    WrittenInOrder m memory row bean result

/-- **Rows with the same columns are mapped alike**, in whatever order they have them and
in whatever case their labels are, if setters decide by the field alone whether they take
it and no two columns resolve to one property; and whatever rows were mapped before. -/
theorem columns_in_any_order (m : BeanMapper β) (hm : m.NamesTypes)
    (hsetters : ∀ p ∈ m.properties, p.DecidesByField) (registry : Registry)
    (earlier' earlier : List Row) {row' row : Row} (hrow' : row'.IsFull) (hrow : row.IsFull)
    (honce : row.ResolvesOnce m.properties) (h : row'.Rearranges row) :
    MappedAlike m (m.mapRows ⟨registry, none⟩ earlier').2 row'
      (m.mapRows ⟨registry, none⟩ earlier).2 row := by
  have hmemory' := keeps_mapRows (Memory.Keeps.new m registry) earlier'
  have hmemory := keeps_mapRows (Memory.Keeps.new m registry) earlier
  have hperm : (row'.resolved m.properties).Perm (row.resolved m.properties) := Row.resolved_perm h
  have honce' : row'.ResolvesOnce m.properties := Row.resolvesOnce_of_rearranges hrow' hrow h honce
  constructor
  case success =>
    cases hbean : m.instantiate with
    | error reason => simp only [mapRow_of_error hbean, reduceCtorEq, exists_false]
    | ok bean =>
        rw [mapRow_succeeds_iff hm hsetters hmemory' hrow' hbean,
          mapRow_succeeds_iff hm hsetters hmemory hrow hbean]
        exact forall_congr' fun a => imp_congr_left hperm.mem_iff
  case same =>
    intro bean result' result hbean hresult' hresult
    obtain ⟨_, hsettled'⟩ := settled_of_mapRow hm hmemory' hrow' hbean hresult'
    obtain ⟨_, hsettled⟩ := settled_of_mapRow hm hmemory hrow hbean hresult
    rw [rowFields, rowFields, hsettled'.written, hsettled.written]
    exact hperm.filterMap _
  case order' => exact fun _ _ => writtenInOrder hm hmemory' hrow' honce'
  case order => exact fun _ _ => writtenInOrder hm hmemory hrow honce

/-- The columns change places and the case of their labels; NULL stands for zero in one of
them, and a converter changes the other. -/
theorem columns_in_any_order_of_swapped :
    let shout : Converter := fun
      | .string s => .ok (.string (s ++ "!"))
      | v => .ok v
    let m : BeanMapper (Int32 × String) :=
      { typeName := "Greeting", instantiate := .ok (7, "")
        properties :=
          [{ name := "count", field := .int32
             write := fun b n => if n < 0 then .error "negative" else .ok (n, b.2) },
            { name := "text", field := .string, write := fun b s => .ok (b.1, s)
              converter := some ⟨"Shout", shout⟩ }] }
    let row : Row := ⟨[⟨"count", none⟩, ⟨"text", none⟩], [.null, .string "hello"]⟩
    let row' : Row := ⟨[⟨"TEXT", none⟩, ⟨"Count", none⟩], [.string "hello", .null]⟩
    m.NamesTypes ∧ (∀ p ∈ m.properties, p.DecidesByField) ∧ row'.IsFull ∧ row.IsFull ∧
      row.ResolvesOnce m.properties ∧ row'.Rearranges row ∧
      MappedAlike m (m.mapRows ⟨.empty, none⟩ [row]).2 row' (m.mapRows ⟨.empty, none⟩ []).2 row ∧
      (m.mapRow ⟨.empty, none⟩ row').1.toOption = some (0, "hello!") ∧
      (m.mapRow ⟨.empty, none⟩ row).1.toOption = some (0, "hello!") := by
  intro shout m row row'
  have hm : m.NamesTypes := by
    intro t ht t' ht' _
    obtain rfl := List.mem_singleton.mp ht
    obtain rfl := List.mem_singleton.mp ht'
    rfl
  have hsetters : ∀ p ∈ m.properties, p.DecidesByField := by
    refine List.forall_mem_cons.mpr ⟨?_, List.forall_mem_singleton.mpr ?_⟩
    · intro n bean bean' result hwrite
      by_cases h : n < 0
      · simp [h] at hwrite
      · exact ⟨(n, bean'.2), if_neg h⟩
    · exact fun s bean bean' result _ => ⟨(bean'.1, s), rfl⟩
  have honce : row.ResolvesOnce m.properties :=
    List.Nodup.of_map Property.name (by decide +kernel)
  have hrearranges : row'.Rearranges row :=
    ⟨[("text", .string "hello"), ("count", .null)], .swap _ _ [],
      .cons ⟨by decide, rfl⟩ (.cons ⟨by decide, rfl⟩ .nil)⟩
  exact ⟨hm, hsetters, rfl, rfl, honce, hrearranges,
    columns_in_any_order m hm hsetters .empty [row] [] rfl rfl honce hrearranges,
    by decide +kernel, by decide +kernel⟩

end BeanMapper

end SqlAccess
