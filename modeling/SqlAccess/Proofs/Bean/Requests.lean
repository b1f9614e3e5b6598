import SqlAccess.Proofs.Bean.Setters
import SqlAccess.Proofs.Statement.Program

/-!
# What a row asks for

Mapping a row is a matter of the row and the properties, except for two things that
they leave to others: converters convert values, and setters write fields.  So a row
is a program that asks for the one and the other.  A mapper answers it with the
converters of its registry and with the object that it fills; whoever else answers it,
a converter that remembers what it was given, or a setter that counts, is asked for the
same as long as the answers are the same.

* `Request` — what is asked for;
* `BeanMapper.prepare` — what a property is given of its column, which nobody is asked;
* `BeanMapper.requests` — the program of some columns;
* `BeanMapper.mapRow_eq_run` — **mapping a row is answering its requests**.
-/

namespace SqlAccess

variable {β : Type}

/-- What the mapping of a row asks for. -/
inductive Request (β : Type) where
  /-- A value in the place of the one that a property's converter is given. -/
  | convert (p : Property β) (t : ConverterType) (v : Value)
  /-- To write a field. -/
  | write (p : Property β) (x : p.field.Carrier)

/-- The answer to a request, or the reason why it is refused. -/
@[reducible] def Request.Answer : Request β → Type
  | convert .. => Except String Value
  | write .. => Except String Unit

/-- Programs that ask for conversions and for fields to be written. -/
abbrev RequestProgram (β α : Type) : Type := Program (Request β) Request.Answer α

/-- Asks for the conversion of a value, if a property has a converter. -/
def Property.askToConvert (p : Property β) (v : Value) : RequestProgram β (Except Error Value) :=
  match p.converter with
  | none => .done (.ok v)
  | some t => .call (.convert p t v) fun r => .done (r.mapError (.conversion t.name))

/-- Asks to write a value, if it fits the field. -/
def Property.askToWrite (p : Property β) (v : Value) : RequestProgram β (Except Error Unit) :=
  match p.field.ofValue v with
  | .error e => .done (.error e)
  | .ok x => .call (.write p x) fun r =>
      .done (r.mapError fun reason => .internal s!"setter for '{p.name}' failed: {reason}")

namespace BeanMapper

/-- The value of a column that goes to its property: fetched, and replaced if it is a
NULL that has a value to stand for it. -/
def prepare (m : BeanMapper β) (row : Row) (t : Target β) : Except Error Value :=
  row.getAs t.index t.property.fetchKind >>= m.replaceNull t.property t.label

/-- What a column asks for. -/
def columnRequests (m : BeanMapper β) (row : Row) (t : Target β) :
    RequestProgram β (Except Error Unit) :=
  match m.prepare row t with
  | .error e => .done (.error e)
  | .ok v => (t.property.askToConvert v).andThen t.property.askToWrite

/-- What some columns ask for, one after the other, up to the first that fails. -/
def requests (m : BeanMapper β) (row : Row) : List (Target β) → RequestProgram β (Except Error Unit)
  | [] => .done (.ok ())
  | t :: rest => (m.columnRequests row t).andThen fun _ => m.requests row rest

/-- The answer of a mapper: converters are those of the registry, and fields are
written into the object. -/
def answer : (c : Request β) → Registry × β → c.Answer × (Registry × β)
  | .convert _ t v, (registry, bean) =>
    ((registry.getOrCreate t).1 v, ((registry.getOrCreate t).2, bean))
  | .write p x, (registry, bean) =>
    match p.write bean x with
    | .ok bean => (.ok (), (registry, bean))
    | .error reason => (.error reason, (registry, bean))

variable {m : BeanMapper β} {row row' : Row}

/-! ## Programs of columns -/

/-- Columns that are prepared alike ask for the same. -/
theorem requests_congr {targets : List (Target β)}
    (h : ∀ t ∈ targets, m.prepare row' t = m.prepare row t) :
    m.requests row' targets = m.requests row targets := by
  induction targets with
  | nil => rfl
  | cons t rest ih =>
      have hrest := ih fun t ht => h t (List.mem_cons_of_mem _ ht)
      simp only [requests, columnRequests, h t List.mem_cons_self, hrest]

/-- Columns on the left ask first. -/
theorem requests_append (m : BeanMapper β) (row : Row) (left right : List (Target β)) :
    m.requests row (left ++ right) =
      (m.requests row left).andThen fun _ => m.requests row right := by
  induction left with
  | nil => rfl
  | cons t rest ih =>
      rw [List.cons_append, requests, requests, ih]
      exact (Program.andThen_assoc (m.columnRequests row t) (fun _ => m.requests row rest)
        fun _ => m.requests row right).symm

/-! ## The mapper's answers -/

theorem run_askToConvert (p : Property β) (v : Value) (s : Registry × β) :
    (p.askToConvert v).run answer s = ((convert p s.1 v).1, (convert p s.1 v).2, s.2) := by
  unfold Property.askToConvert convert
  cases p.converter with
  | none => rfl
  | some t =>
      simp only [Program.run, answer]
      cases (s.1.getOrCreate t).1 v with
      | ok w => rfl
      | error reason => rfl

/-- What is left of the writing of a column into an object. -/
def leave (bean : β) : Except Error β × Registry → Except Error Unit × (Registry × β)
  | (.ok bean', registry) => (.ok (), registry, bean')
  | (.error e, registry) => (.error e, registry, bean)

theorem run_askToWrite (p : Property β) (v : Value) (s : Registry × β) :
    (p.askToWrite v).run answer s = leave s.2 (p.assign s.2 v, s.1) := by
  unfold Property.askToWrite
  cases hfit : p.field.ofValue v with
  | error e =>
      simp only [Property.assign, hfit]
      rfl
  | ok x =>
      rw [assign_of_fit hfit]
      simp only [Program.run, answer]
      cases p.write s.2 x with
      | ok bean => rfl
      | error reason => rfl

/-- The requests of a column are answered by writing it. -/
theorem run_columnRequests (m : BeanMapper β) (row : Row) (t : Target β) (s : Registry × β) :
    (m.columnRequests row t).run answer s = leave s.2 (m.writeTarget row t s) := by
  cases hprepare : m.prepare row t with
  | error e =>
      have hwrite : m.writeTarget row t s = (.error e, s.1) := by
        rw [prepare] at hprepare
        simp only [writeTarget, writeColumn, hprepare]
      simp only [columnRequests, hprepare, hwrite]
      rfl
  | ok v =>
      have hwrite : m.writeTarget row t s =
          ((convert t.property s.1 v).1 >>= t.property.assign s.2,
            (convert t.property s.1 v).2) := by
        rw [prepare] at hprepare
        simp only [writeTarget, writeColumn, hprepare]
      simp only [columnRequests, hprepare, hwrite]
      rw [Program.andThen, Program.run_bind, run_askToConvert]
      rcases convert t.property s.1 v with ⟨e | w, registry⟩
      · rfl
      · exact run_askToWrite t.property w (registry, s.2)

/-- The requests of several columns are answered by writing them. -/
theorem run_requests (m : BeanMapper β) (row : Row) (targets : List (Target β))
    (s : Registry × β) :
    (m.requests row targets).run answer s =
      let w := m.writeTargets row targets s
      (match w.failure with
        | none => .ok ()
        | some e => .error e, w.registry, w.bean) := by
  induction targets generalizing s with
  | nil => rfl
  | cons t rest ih =>
      rw [requests, Program.andThen, Program.run_bind, run_columnRequests, writeTargets]
      rcases m.writeTarget row t s with ⟨e | bean, registry⟩
      · rfl
      · exact ih (registry, bean)

/-- The object that is left of a run, unless it failed. -/
def finish (done : Except Error Unit × (Registry × β)) : Except Error β :=
  done.1.map fun _ => done.2.2

theorem writeTargets_result_eq_run (m : BeanMapper β) (row : Row) (targets : List (Target β))
    (s : Registry × β) :
    (m.writeTargets row targets s).result = finish ((m.requests row targets).run answer s) := by
  rw [run_requests]
  rcases m.writeTargets row targets s with ⟨bean, registry, _ | e⟩ <;> rfl

/-- **Mapping a row is answering its requests.** -/
theorem mapRow_eq_run {memory : Memory β} {bean : β} (hbean : m.instantiate = .ok bean)
    (hs : memory.IsSound m) (row : Row) :
    m.mapRow memory row =
      let done := (m.requests row (row.targets m.properties)).run answer (memory.registry, bean)
      (finish done, ⟨done.2.1, some (.resolve m.properties row.labels)⟩,
        if memory.labels? = some row.labels then []
        else (Bindings.resolve m.properties row.labels).unmatched) := by
  rw [mapRow_eq_writeTargets hbean hs]
  simp only [writeTargets_result_eq_run, run_requests]

end BeanMapper

end SqlAccess
