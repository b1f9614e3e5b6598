import SqlAccess.Bean.Mapper

/-!
# What a mapper keeps

A mapper keeps two things from row to row: the match of labels to properties,
and the converters that were created on the way.  Neither shows in what becomes
of a row.

* `Registry.instanceOf_getOrCreate` — creating one converter changes no other;
* `BeanMapper.computesAnew_iff` — when the match is worked out anew;
* `BeanMapper.Memory.Keeps` — what is kept is what would be worked out;
* `BeanMapper.mapped_as_alone` — **every row is mapped as it would be alone**.
-/

namespace SqlAccess

/-- The labels of a row's columns, which make its shape. -/
def Row.labels (row : Row) : List String := row.columns.map Column.effectiveLabel

namespace Registry

/-- The instance of a type that is in use or would be created. -/
def instanceOf (r : Registry) (t : ConverterType) : Converter := (r.getOrCreate t).1

theorem instanceOf_eq (r : Registry) (t : ConverterType) :
    r.instanceOf t = (r.find? t.name).getD t.initial := by
  unfold instanceOf getOrCreate
  cases r.find? t.name with
  | none => rfl
  | some c => rfl

/-- What is inserted behind the others is found where nothing was before. -/
theorem find?_insert {r : Registry} {name : String} (hnew : r.find? name = none) (c : Converter)
    (other : String) :
    (r.insert name c).find? other = (r.find? other).or (if other = name then some c else none) := by
  have hentries : (r.insert name c).entries = r.entries ++ [(name, c)] := by
    simp [insert, hnew]
  rw [find?, hentries, List.lookup_append]
  by_cases hname : other = name
  · simp [find?, hname]
  · have hother : (other == name) = false := beq_false_of_ne hname
    simp [find?, hname, List.lookup_cons, hother]

/-- An instance that is created is the one that was in use already. -/
theorem instanceOf_getOrCreate {t t' : ConverterType}
    (h : t.name = t'.name → t.initial = t'.initial) (r : Registry) : (r.getOrCreate t').2.instanceOf t = r.instanceOf t := by
  unfold getOrCreate
  cases hfind : r.find? t'.name with
  | some c => rfl
  | none =>
      rw [instanceOf_eq, instanceOf_eq, find?_insert hfind]
      cases r.find? t.name with
      | some c => rfl
      | none =>
          by_cases hname : t.name = t'.name
          · simp [hname, h hname]
          · simp [hname]

end Registry

namespace BeanMapper

variable {β : Type} {m : BeanMapper β} {r r' : Registry} {memory : Memory β} {row : Row}

/-! ## Converters -/

/-- The types of the converters of a mapper's properties. -/
def converters (m : BeanMapper β) : List ConverterType := m.properties.filterMap (·.converter)

/-- Types of converters of the same name are the same. -/
def NamesTypes (m : BeanMapper β) : Prop :=
  ∀ t ∈ m.converters, ∀ t' ∈ m.converters, t.name = t'.name → t.initial = t'.initial

/-- For a mapper it makes no difference which of the registries it has. -/
def SameInstances (m : BeanMapper β) (r r' : Registry) : Prop :=
  ∀ t ∈ m.converters, r.instanceOf t = r'.instanceOf t

theorem SameInstances.refl (m : BeanMapper β) (r : Registry) : m.SameInstances r r :=
  fun _ _ => rfl

theorem SameInstances.symm (h : m.SameInstances r r') : m.SameInstances r' r :=
  fun t ht => (h t ht).symm

theorem SameInstances.trans {r'' : Registry} (h : m.SameInstances r r')
    (h' : m.SameInstances r' r'') : m.SameInstances r r'' :=
  fun t ht => (h t ht).trans (h' t ht)

theorem mem_converters {p : Property β} {t : ConverterType} (hp : p ∈ m.properties)
    (ht : p.converter = some t) : t ∈ m.converters :=
  List.mem_filterMap.mpr ⟨p, hp, ht⟩

theorem convert_fst {p : Property β} (hp : p ∈ m.properties) (h : m.SameInstances r r')
    (v : Value) : (convert p r v).1 = (convert p r' v).1 := by
  unfold convert
  cases ht : p.converter with
  | none => rfl
  | some t =>
      have hinstance : (r.getOrCreate t).1 = (r'.getOrCreate t).1 := h t (mem_converters hp ht)
      simp only [hinstance]
      cases (r'.getOrCreate t).1 v with
      | ok w => rfl
      | error reason => rfl

/-- A converter that is created was in use already, as far as the mapper can
tell. -/
theorem convert_snd (hm : m.NamesTypes) {p : Property β} (hp : p ∈ m.properties) (r : Registry)
    (v : Value) : m.SameInstances (convert p r v).2 r := by
  unfold convert
  cases ht : p.converter with
  | none => exact .refl m r
  | some t =>
      have hcreated : m.SameInstances (r.getOrCreate t).2 r := by
        intro t' ht'
        exact Registry.instanceOf_getOrCreate (hm t' ht' t (mem_converters hp ht)) r
      cases hv : (r.getOrCreate t).1 v with
      | ok w => simpa only [hv] using hcreated
      | error reason => simpa only [hv] using hcreated

theorem writeColumn_fst {p : Property β} (hp : p ∈ m.properties) (h : m.SameInstances r r')
    (index : Nat) (label : String) (bean : β) :
    (m.writeColumn row index label p r bean).1 = (m.writeColumn row index label p r' bean).1 := by
  unfold writeColumn
  cases row.getAs index p.fetchKind >>= m.replaceNull p label with
  | error e => rfl
  | ok v =>
      have hconvert := convert_fst hp h v
      simp only [hconvert]

theorem writeColumn_snd (hm : m.NamesTypes) {p : Property β} (hp : p ∈ m.properties)
    (r : Registry) (index : Nat) (label : String) (bean : β) :
    m.SameInstances (m.writeColumn row index label p r bean).2 r := by
  unfold writeColumn
  cases row.getAs index p.fetchKind >>= m.replaceNull p label with
  | error e => exact .refl m r
  | ok v => exact convert_snd hm hp r v

/-- Writing a row gives the same with registries that make no difference, and
leaves one that makes none. -/
theorem writeAll_sameInstances (hm : m.NamesTypes) {targets : List (String × Option (Property β))}
    (htargets : ∀ label p, (label, some p) ∈ targets → p ∈ m.properties)
    (h : m.SameInstances r r') (index : Nat) (bean : β) :
    (m.writeAll row index targets r bean).result = (m.writeAll row index targets r' bean).result ∧
      m.SameInstances (m.writeAll row index targets r bean).registry r := by
  induction targets generalizing r r' index bean with
  | nil => exact ⟨rfl, .refl m r⟩
  | cons target rest ih =>
      have hrest : ∀ label p, (label, some p) ∈ rest → p ∈ m.properties :=
        fun label p hp => htargets label p (List.mem_cons_of_mem _ hp)
      obtain ⟨label, _ | p⟩ := target
      · exact ih hrest h (index + 1) bean
      · have hp := htargets label p List.mem_cons_self
        have hsame : (m.writeColumn row index label p r bean).1 = _ :=
          writeColumn_fst hp h index label bean
        have hleft : m.SameInstances (m.writeColumn row index label p r bean).2 r :=
          writeColumn_snd hm hp r index label bean
        have hleft' : m.SameInstances (m.writeColumn row index label p r' bean).2 r' :=
          writeColumn_snd hm hp r' index label bean
        simp only [writeAll]
        rcases hw : m.writeColumn row index label p r bean with ⟨result, s⟩
        rcases hw' : m.writeColumn row index label p r' bean with ⟨result', s'⟩
        rw [hw, hw'] at hsame
        rw [hw] at hleft
        rw [hw'] at hleft'
        obtain rfl : result = result' := hsame
        cases result with
        | error e => exact ⟨rfl, hleft⟩
        | ok bean =>
            obtain ⟨hresult, hregistry⟩ :=
              ih hrest ((hleft.trans h).trans hleft'.symm) (index + 1) bean
            exact ⟨hresult, hregistry.trans hleft⟩

/-! ## Bindings -/

/-- A column is matched to properties of the mapper. -/
theorem mem_of_resolve {labels : List String} {label : String} {p : Property β}
    (h : (label, some p) ∈
      (Bindings.resolve m.properties labels).labels.zip
        (Bindings.resolve m.properties labels).targets) : p ∈ m.properties := by
  have htarget := (List.of_mem_zip h).2
  simp only [Bindings.resolve, List.mem_map] at htarget
  obtain ⟨label', _, hresolve⟩ := htarget
  exact List.mem_of_find?_eq_some hresolve

/-- The match for a row is worked out from its labels, whatever targets are
kept. -/
def ComputesAnew (m : BeanMapper β) (memory : Memory β) (row : Row) : Prop :=
  ∀ targets, (m.bindingsFor (memory.bindings.map fun b => ⟨b.labels, targets⟩) row.labels).1 =
    .resolve m.properties row.labels

/-- The match for a row is the one that is kept, whatever its targets are. -/
def Reuses (m : BeanMapper β) (memory : Memory β) (row : Row) : Prop :=
  ∃ b, memory.bindings = some b ∧
    ∀ targets, (m.bindingsFor (some ⟨b.labels, targets⟩) row.labels).1 = ⟨b.labels, targets⟩

/-- The labels of the match that is kept. -/
def Memory.labels? (memory : Memory β) : Option (List String) := memory.bindings.map (·.labels)

theorem bindingsFor_of_eq {b : Bindings β} {labels : List String} (h : b.labels = labels) :
    m.bindingsFor (some b) labels = (b, []) := by
  simp [bindingsFor, h]

theorem bindingsFor_of_ne {kept : Option (Bindings β)} {labels : List String}
    (h : kept.map (·.labels) ≠ some labels) :
    m.bindingsFor kept labels =
      (.resolve m.properties labels, (Bindings.resolve m.properties labels).unmatched) := by
  cases kept with
  | none => rfl
  | some b =>
      have hlabels : b.labels ≠ labels := by simpa using h
      simp [bindingsFor, hlabels]

/-- The kept match is used again just if it has the labels of the row. -/
theorem reuses_iff : m.Reuses memory row ↔ memory.labels? = some row.labels := by
  constructor
  · rintro ⟨b, hb, hreuse⟩
    by_cases h : memory.labels? = some row.labels
    · exact h
    · have hanew : m.bindingsFor (some b) row.labels = _ := bindingsFor_of_ne (by rwa [← hb])
      have hlabels : row.labels = b.labels := by
        have hsame := hreuse b.targets
        rw [hanew] at hsame
        exact congrArg Bindings.labels hsame
      rw [Memory.labels?, hb, hlabels]
      rfl
  · intro h
    obtain ⟨b, hb, hlabels⟩ := Option.map_eq_some_iff.mp h
    refine ⟨b, hb, fun targets => ?_⟩
    rw [bindingsFor_of_eq (b := ⟨b.labels, targets⟩) hlabels]

/-- The match is worked out anew just if the kept one has other labels. -/
theorem computesAnew_iff : m.ComputesAnew memory row ↔ memory.labels? ≠ some row.labels := by
  constructor
  · intro hanew h
    obtain ⟨b, hb, hlabels⟩ := Option.map_eq_some_iff.mp h
    -- One target too many would be kept.
    have hsame := hanew (none :: row.labels.map (resolve? m.properties))
    rw [hb, Option.map_some, bindingsFor_of_eq (by exact hlabels)] at hsame
    have hlength := congrArg (fun b => b.targets.length) hsame
    simp [Bindings.resolve] at hlength
  · intro h targets
    rw [bindingsFor_of_ne]
    simpa [Memory.labels?, Function.comp_def] using h

/-! ## Rows -/

/-- The match that is kept is the one that would be worked out from its
labels. -/
def Memory.IsSound (m : BeanMapper β) (memory : Memory β) : Prop :=
  ∀ b, memory.bindings = some b → b = .resolve m.properties b.labels

/-- The match that is used for a row is the one that would be worked out. -/
theorem bindingsFor_fst (hs : memory.IsSound m) (labels : List String) :
    (m.bindingsFor memory.bindings labels).1 = .resolve m.properties labels := by
  by_cases h : memory.labels? = some labels
  · obtain ⟨b, hb, hlabels⟩ := Option.map_eq_some_iff.mp h
    rw [hb, bindingsFor_of_eq hlabels, hs b hb, ← hlabels]
  · rw [bindingsFor_of_ne h]

theorem bindingsFor_snd (labels : List String) :
    (m.bindingsFor memory.bindings labels).2 =
      if memory.labels? = some labels then []
      else (Bindings.resolve m.properties labels).unmatched := by
  by_cases h : memory.labels? = some labels
  · obtain ⟨b, hb, hlabels⟩ := Option.map_eq_some_iff.mp h
    rw [if_pos h, hb, bindingsFor_of_eq hlabels]
  · rw [if_neg h, bindingsFor_of_ne h]

theorem mapRow_of_error {reason : String} (h : m.instantiate = .error reason) (memory : Memory β)
    (row : Row) :
    m.mapRow memory row = (.error (.instantiation m.typeName reason), memory, []) := by
  simp only [mapRow, h]

/-- A row is written with the match for its labels, which is kept after it. -/
theorem mapRow_of_ok {bean : β} (h : m.instantiate = .ok bean) (hs : memory.IsSound m) (row : Row) :
    m.mapRow memory row =
      let b := Bindings.resolve m.properties row.labels
      let w := m.writeAll row 1 (b.labels.zip b.targets) memory.registry bean
      (w.result, ⟨w.registry, some b⟩,
        if memory.labels? = some row.labels then [] else b.unmatched) := by
  have hbindings : m.bindingsFor memory.bindings row.labels =
      (.resolve m.properties row.labels, if memory.labels? = some row.labels then []
        else (Bindings.resolve m.properties row.labels).unmatched) :=
    Prod.ext (bindingsFor_fst hs row.labels) (bindingsFor_snd row.labels)
  simp only [mapRow, h]
  rw [show row.columns.map Column.effectiveLabel = row.labels from rfl, hbindings]

/-- What a mapper that began with a registry has in its memory. -/
structure Memory.Keeps (m : BeanMapper β) (registry : Registry) (memory : Memory β) : Prop where
  bindings : memory.IsSound m
  registry : m.NamesTypes → m.SameInstances memory.registry registry

theorem Memory.Keeps.new (m : BeanMapper β) (registry : Registry) :
    Memory.Keeps m registry ⟨registry, none⟩ where
  bindings b hb := by cases hb
  registry _ := .refl m registry

variable {registry : Registry}

/-- A row is mapped as by a mapper that keeps no match and has the registry as
it is, or as it was at the beginning. -/
theorem mapRow_fst (h : memory.Keeps m registry) (row : Row) (number : Nat) :
    (m.mapRow memory row).1 = m.rowMapper memory.registry row number ∧
      (m.NamesTypes → (m.mapRow memory row).1 = m.rowMapper registry row number) := by
  unfold rowMapper
  cases hbean : m.instantiate with
  | error reason =>
      simp only [mapRow_of_error hbean]
      exact ⟨trivial, fun _ => trivial⟩
  | ok bean =>
      rw [mapRow_of_ok hbean h.bindings, mapRow_of_ok hbean (Memory.Keeps.new m _).bindings,
        mapRow_of_ok hbean (Memory.Keeps.new m registry).bindings]
      refine ⟨rfl, fun hm => ?_⟩
      exact (writeAll_sameInstances hm (fun _ _ => mem_of_resolve) (h.registry hm) 1 bean).1

theorem keeps_mapRow (h : memory.Keeps m registry) (row : Row) :
    (m.mapRow memory row).2.1.Keeps m registry := by
  cases hbean : m.instantiate with
  | error reason =>
      rw [mapRow_of_error hbean]
      exact h
  | ok bean =>
      rw [mapRow_of_ok hbean h.bindings]
      constructor
      case bindings =>
        intro b hb
        cases hb
        rfl
      case registry =>
        intro hm
        apply SameInstances.trans ?_ (h.registry hm)
        exact (writeAll_sameInstances hm (fun _ _ => mem_of_resolve) (.refl m _) 1 bean).2

theorem keeps_mapRows (h : memory.Keeps m registry) (rows : List Row) :
    (m.mapRows memory rows).2.Keeps m registry := by
  induction rows generalizing memory with
  | nil => exact h
  | cons row rest ih => exact ih (keeps_mapRow h row)

/-- The match that is kept after some rows is that of the last one. -/
theorem labels?_mapRows {bean : β} (hbean : m.instantiate = .ok bean)
    (h : memory.Keeps m registry) (rows : List Row) :
    (m.mapRows memory rows).2.labels? = (rows.getLast?.map Row.labels).or memory.labels? := by
  induction rows generalizing memory with
  | nil => rfl
  | cons row rest ih =>
      have hrow : (m.mapRow memory row).2.1.labels? = some row.labels := by
        rw [mapRow_of_ok hbean h.bindings]
        rfl
      calc (m.mapRows memory (row :: rest)).2.labels?
          = (m.mapRows (m.mapRow memory row).2.1 rest).2.labels? := rfl
        _ = (rest.getLast?.map Row.labels).or (m.mapRow memory row).2.1.labels? :=
          ih (keeps_mapRow h row)
        _ = ((row :: rest).getLast?.map Row.labels).or memory.labels? := by
          rw [hrow, List.getLast?_cons]
          cases rest.getLast? <;> rfl

/-- The rows before a place are mapped first. -/
theorem getElem?_mapRows (memory : Memory β) (earlier : List Row) (row : Row) (later : List Row) :
    (m.mapRows memory (earlier ++ row :: later)).1.1[earlier.length]? =
      some (m.mapRow (m.mapRows memory earlier).2 row).1 := by
  induction earlier generalizing memory with
  | nil => rfl
  | cons first rest ih => exact ih (m.mapRow memory first).2.1

/-- What is said of one row among others that are mapped by the same mapper. -/
structure MappedAsAlone (m : BeanMapper β) (registry : Registry) (earlier : List Row) (row : Row)
    (later : List Row) (memory : Memory β) : Prop where
  /-- Its result is what a mapper gives that keeps no match, with the registry
  as it is by then. -/
  result : (m.mapRows ⟨registry, none⟩ (earlier ++ row :: later)).1.1[earlier.length]? =
    some (m.rowMapper memory.registry row earlier.length)
  /-- The registry might as well be as it was at the beginning. -/
  result_initial : m.NamesTypes →
    m.rowMapper memory.registry row earlier.length = m.rowMapper registry row earlier.length
  /-- The match is worked out anew unless the row before has the same labels. -/
  anew : ∀ bean, m.instantiate = .ok bean →
    (m.ComputesAnew memory row ↔ earlier.getLast?.map Row.labels ≠ some row.labels)
  reused : ∀ bean, m.instantiate = .ok bean →
    (m.Reuses memory row ↔ earlier.getLast?.map Row.labels = some row.labels)
  /-- Labels are told of when the match is worked out anew, those that match
  nothing, and never otherwise. -/
  told : ∀ bean, m.instantiate = .ok bean → m.ComputesAnew memory row →
    (m.mapRow memory row).2.2 = (Bindings.resolve m.properties row.labels).unmatched
  anew_of_told : (m.mapRow memory row).2.2 ≠ [] → m.ComputesAnew memory row

/-- **Every row is mapped as it would be alone**, whichever rows of whatever
shapes were mapped before it, and whether or not those failed. -/
theorem mapped_as_alone (m : BeanMapper β) (registry : Registry) (earlier : List Row) (row : Row)
    (later : List Row) :
    MappedAsAlone m registry earlier row later (m.mapRows ⟨registry, none⟩ earlier).2 := by
  have hkeeps := keeps_mapRows (Memory.Keeps.new m registry) earlier
  have hlabels := fun bean (hbean : m.instantiate = .ok bean) =>
    labels?_mapRows hbean (Memory.Keeps.new m registry) earlier
  generalize hmemory : (m.mapRows ⟨registry, none⟩ earlier).2 = memory at hkeeps hlabels ⊢
  obtain ⟨hresult, hinitial⟩ := mapRow_fst hkeeps row earlier.length
  constructor
  case result => rw [getElem?_mapRows, hmemory, hresult]
  case result_initial =>
    intro hm
    rw [← hresult, hinitial hm]
  case anew =>
    intro bean hbean
    rw [computesAnew_iff, hlabels bean hbean]
    simp [Memory.labels?]
  case reused =>
    intro bean hbean
    rw [reuses_iff, hlabels bean hbean]
    simp [Memory.labels?]
  case told =>
    intro bean hbean hanew
    rw [mapRow_of_ok hbean hkeeps.bindings]
    exact if_neg (computesAnew_iff.mp hanew)
  case anew_of_told =>
    intro h
    rw [computesAnew_iff]
    intro hsame
    cases hbean : m.instantiate with
    | error reason =>
        rw [mapRow_of_error hbean] at h
        exact h rfl
    | ok bean =>
        rw [mapRow_of_ok hbean hkeeps.bindings] at h
        exact h (if_pos hsame)

/-- The second row fails, but its match is used for the third; the fourth has
another shape. -/
theorem mapped_as_alone_of_four :
    let m : BeanMapper Bool :=
      ⟨"Flag", [{ name := "on", field := .bool, write := fun _ b => .ok b }], .ok false, false⟩
    let row (v : Value) : Row := ⟨[⟨"ON", none⟩, ⟨"note", none⟩], [v, .null]⟩
    let last : Row := ⟨[⟨"note", none⟩], [.null]⟩
    let earlier := [row (.bool true), row .null, row (.int32 1)]
    MappedAsAlone m .empty earlier last [] (m.mapRows ⟨.empty, none⟩ earlier).2 ∧
      (m.mapRows ⟨.empty, none⟩ (earlier ++ [last])).1 =
        ([.ok true, .error (.typeMismatch
            "cannot write NULL column 'ON' into primitive property 'on' of type bool"),
          .ok true, .ok false], [["note"], ["note"]]) := by
  intro m row last earlier
  exact ⟨mapped_as_alone m .empty earlier last [], rfl⟩

end BeanMapper

end SqlAccess
