import SqlAccess.MySql.Source
import SqlAccess.Proofs.Statement.Bound
import SqlAccess.Scripted.Source
import SqlAccess.Statement.Script

/-!
# Parameters in both drivers

A prepared statement of the scripted source and one of MySQL keep their
parameters in different forms: as they were bound, and as the protocol carries
them.  Otherwise the same calls leave the same behind.  They refuse the same
calls with the same error, and what an execution or an entry of a batch takes is
for every placeholder the value it was given last.

* `Driver.afterCalls` — a statement and its driver after some calls;
* `Inputs.refusal?` — the calls that are refused for their parameters;
* `Driver.KeepsInputs` — drivers whose statements keep inputs, as both do;
* `HandledAlike` — what the two drivers have in common after some calls;
* `handled_alike` — **they have it after all calls**.
-/

namespace SqlAccess

/-- A prepared statement and its driver's state after calls on the statement,
the latest of which comes first. -/
def Driver.afterCalls (D : Driver) (x : D.Prepared × D.State) :
    List PreparedCall → D.Prepared × D.State
  | [] => x
  | c :: earlier => (D.answerPrepared c (D.afterCalls x earlier).1 (D.afterCalls x earlier).2).2

/-- The driver refuses a call, and nothing changes. -/
def Driver.Refuses (D : Driver) (x : D.Prepared × D.State) (c : PreparedCall) (e : SqlError) :
    Prop :=
  c.reply (D.answerPrepared c x.1 x.2).1 = .error e ∧ (D.answerPrepared c x.1 x.2).2 = x

/-- The driver carries out a call that gives nothing back. -/
def Driver.Accepts (D : Driver) (x : D.Prepared × D.State) (c : PreparedCall) : Prop :=
  c.reply (D.answerPrepared c x.1 x.2).1 = .ok .done

/-- Whether a call is about the parameters and changes them. -/
def BindingCall.IsChange : BindingCall → Prop
  | .bind .. | .clear | .addBatch => True
  | _ => False

/-- The kind of execution that takes the parameters at a call. -/
def PreparedCall.executionKind? : PreparedCall → Option Scripted.ExecutionKind
  | .query => some .query
  | .update => some .update
  | _ => none

namespace Inputs

/-- Why a call is refused for its parameters, if it is. -/
def refusal? (n : Nat) (calls : List PreparedCall) : PreparedCall → Option SqlError
  | .binding (.bind i _) => if 1 ≤ i ∧ i ≤ n then none else some (.indexOutOfRange i n)
  | .binding .addBatch | .query | .update => (missing? n calls).map .noValueFor
  | _ => none

end Inputs

/-- What the scripted source and MySQL's have in common when the same calls
have been made on a statement of each that has `n` placeholders. -/
structure HandledAlike (pool : MySql.Pool) (n : Nat) (calls : List PreparedCall)
    (x : Scripted.Prepared × Scripted.State) (y : MySql.Prepared × MySql.State) : Prop where
  slots : y.1.inputs.slots = x.1.inputs.slots
  batch : y.1.inputs.batch = x.1.inputs.batch.map (List.map MySql.Datum.ofParameter)
  /-- A value is bound to a placeholder that there is, and is the one it was
  given last. -/
  bound : ∀ i q, x.1.inputs.slots.valueAt? i = some q →
    (1 ≤ i ∧ i ≤ n) ∧ Inputs.lastBound n calls i = some q
  /-- Both refuse a call with the same error, and nothing changes. -/
  refused : ∀ c e, Inputs.refusal? n calls c = some e →
    Scripted.source.Refuses x c e ∧ (MySql.source pool).Refuses y c e
  /-- A taking is refused with the first placeholder that has no value. -/
  missing : ∀ i, Inputs.missing? n calls = some i → (1 ≤ i ∧ i ≤ n) ∧
    Inputs.lastBound n calls i = none ∧
      ∀ j, 1 ≤ j → j < i → (Inputs.lastBound n calls j).isSome = true
  accepted : ∀ c : BindingCall, c.IsChange → Inputs.refusal? n calls (.binding c) = none →
    Scripted.source.Accepts x (.binding c) ∧ (MySql.source pool).Accepts y (.binding c)
  /-- What is taken has a value for each placeholder, the one it was given last. -/
  values : Inputs.missing? n calls = none → (Inputs.pending n calls).length = n ∧
    ∀ i, 1 ≤ i → i ≤ n → (Inputs.pending n calls)[i - 1]? = Inputs.lastBound n calls i
  /-- An entry of the batch takes it. -/
  added : Inputs.missing? n calls = none →
    (Scripted.source.answerPrepared (.binding .addBatch) x.1 x.2).2.1.inputs.batch =
        x.1.inputs.batch ++ [Inputs.pending n calls] ∧
      ((MySql.source pool).answerPrepared (.binding .addBatch) y.1 y.2).2.1.inputs.batch =
        y.1.inputs.batch ++ [(Inputs.pending n calls).map MySql.Datum.ofParameter]
  /-- An execution takes it: it is recorded, and it is sent to the server. -/
  executed : Inputs.missing? n calls = none → ∀ c kind, c.executionKind? = some kind →
    (Scripted.source.answerPrepared c x.1 x.2).2.2 =
        (x.2.run { sql := x.1.sql, kind, params := Inputs.pending n calls }).2 ∧
      ((MySql.source pool).answerPrepared c y.1 y.2).2.2 =
        (y.2.send pool.settings.socketTimeout y.1.link
          (.execute y.1.onServer.sql
            ((Inputs.pending n calls).map MySql.Datum.ofParameter))).2

/-! ## Drivers that keep inputs -/

section

variable {D : Driver} {ε : Type} {encode : Parameter → ε} {inputs : D.Prepared → Inputs ε}
  {n : Nat}

/-- The driver treats the parameters of its prepared statements as inputs are
treated, and refuses an execution that it cannot take them for. -/
structure Driver.KeepsInputs (D : Driver) (encode : Parameter → ε)
    (inputs : D.Prepared → Inputs ε) : Prop where
  after : ∀ c p s, inputs (D.answerPrepared c p s).2.1 = (inputs p).after encode c
  reply : ∀ (c : BindingCall) p s, c.IsChange →
    c.reply (D.answerPrepared (.binding c) p s).1 =
      c.reply ((inputs p).answer encode false "" c).1
  still : ∀ (c : BindingCall) p s, (inputs p).after encode (.binding c) = inputs p →
    (D.answerPrepared (.binding c) p s).2 = (p, s)
  refuses : ∀ c p s e, c.executionKind?.isSome = true →
    ((inputs p).take encode).1 = .error e → D.Refuses (p, s) c e

namespace Driver.KeepsInputs

/-- The inputs of a new statement are, after some calls, what the calls leave. -/
theorem afterCalls (hD : D.KeepsInputs encode inputs) {p : D.Prepared}
    (hp : inputs p = .ofCount n) (s : D.State) (calls : List PreparedCall) :
    inputs (D.afterCalls (p, s) calls).1 = .ofHistory encode n calls := by
  induction calls with
  | nil =>
      rw [Inputs.ofHistory_nil]
      exact hp
  | cons c earlier ih =>
      rw [← Inputs.after_ofHistory, ← ih]
      exact hD.after c _ _

variable {calls : List PreparedCall} {x : D.Prepared × D.State} {c : PreparedCall}

/-- A call that is refused for its parameters is refused in the driver. -/
theorem refuses_of_refusal? (hD : D.KeepsInputs encode inputs)
    (hx : inputs x.1 = .ofHistory encode n calls) {e : SqlError}
    (h : Inputs.refusal? n calls c = some e) : D.Refuses x c e := by
  -- A change of the parameters that is refused leaves the inputs, so it leaves all.
  have hchange : ∀ c : BindingCall, c.IsChange →
      ((Inputs.ofHistory encode n calls).answer encode false "" c).2 = .ofHistory encode n calls →
      c.reply ((Inputs.ofHistory encode n calls).answer encode false "" c).1 = .error e →
      D.Refuses x (.binding c) e := by
    intro c hc hsame hreply
    rw [← hx] at hsame hreply
    exact ⟨(hD.reply c x.1 x.2 hc).trans hreply, hD.still c x.1 x.2 hsame⟩
  have htake : (Inputs.missing? n calls).map .noValueFor = some e →
      (Inputs.ofHistory encode n calls).take encode = (.error e, .ofHistory encode n calls) := by
    intro hmap
    obtain ⟨i, hi, rfl⟩ := Option.map_eq_some_iff.mp hmap
    rw [Inputs.take_ofHistory, hi]
  cases c with
  | binding c =>
      cases c with
      | bind i q =>
          simp only [Inputs.refusal?] at h
          split at h
          · cases h
          · rename_i hrange
            obtain rfl := Option.some.inj h
            apply hchange (.bind i q) trivial
            · simp only [Inputs.answer, Inputs.ofHistory, Slots.bind_ofBound_of_not hrange]
            · simp only [Inputs.answer, Inputs.ofHistory, Slots.bind_ofBound_of_not hrange]
              rfl
      | addBatch =>
          apply hchange .addBatch trivial
          · simp only [Inputs.answer, htake h]
          · simp only [Inputs.answer, htake h]
            rfl
      | _ => cases h
  | query => exact hD.refuses _ x.1 x.2 e rfl (by rw [hx, htake h])
  | update => exact hD.refuses _ x.1 x.2 e rfl (by rw [hx, htake h])
  | _ => cases h

/-- A change of the parameters that is not refused is carried out. -/
theorem accepts_of_refusal?_none (hD : D.KeepsInputs encode inputs)
    (hx : inputs x.1 = .ofHistory encode n calls) {c : BindingCall} (hc : c.IsChange)
    (h : Inputs.refusal? n calls (.binding c) = none) : D.Accepts x (.binding c) := by
  refine (hD.reply c x.1 x.2 hc).trans ?_
  rw [hx]
  cases c with
  | bind i q =>
      have hrange : 1 ≤ i ∧ i ≤ n := by
        by_contra hout
        simp only [Inputs.refusal?, if_neg hout] at h
        cases h
      simp only [Inputs.answer, Inputs.ofHistory, Slots.bind_ofBound hrange]
      rfl
  | clear => rfl
  | addBatch =>
      have hall : Inputs.missing? n calls = none := Option.map_eq_none_iff.mp h
      simp only [Inputs.answer, Inputs.take_ofHistory, hall]
      rfl
  | supportsBatch => cases hc
  | sql => cases hc

end Driver.KeepsInputs

end

/-! ## The two drivers -/

namespace Scripted

/-- The scripted source keeps parameters as they were bound. -/
theorem keepsInputs : source.KeepsInputs id Prepared.inputs where
  after c p s := by
    have htake := p.inputs.take_cases id
    cases c with
    | binding c => cases c <;> rfl
    | query =>
        simp only [Prepared.answer, Inputs.after]
        rcases htake with ⟨e, h⟩ | ⟨ps, h⟩
        · rw [h]
        · rw [h]
    | update =>
        simp only [Prepared.answer, Inputs.after]
        rcases htake with ⟨e, h⟩ | ⟨ps, h⟩
        · rw [h]
        · rcases hr : s.runUpdate p.sql ps with ⟨_ | ⟨affected, key⟩, s'⟩
          · simp only [h, hr]
          · simp only [h, hr]
    | _ => rfl
  reply c p s hc := by
    cases c with
    | supportsBatch => cases hc
    | sql => cases hc
    | _ => rfl
  still c p s h := by
    have hsame : (p.answer (.binding c) s).2.1 =
        { p with inputs := p.inputs.after id (.binding c) } := by
      cases c <;> rfl
    have hstate : (p.answer (.binding c) s).2.2 = s := rfl
    rw [h] at hsame
    exact Prod.ext hsame hstate
  refuses c p s e hc h := by
    have hrefused := Inputs.take_of_error h
    cases c with
    | query =>
        simp only [Driver.Refuses, Prepared.answer, hrefused]
        exact ⟨rfl, trivial⟩
    | update =>
        simp only [Driver.Refuses, Prepared.answer, hrefused]
        exact ⟨rfl, trivial⟩
    | _ => cases hc

/-- An execution that takes its parameters is recorded with them. -/
theorem state_answer {c : PreparedCall} {kind : ExecutionKind} (hc : c.executionKind? = some kind)
    {p : Prepared} {ps : List Parameter} {inputs : Inputs Parameter}
    (h : p.inputs.take id = (.ok ps, inputs)) (s : State) :
    (p.answer c s).2.2 = (s.run { sql := p.sql, kind, params := ps }).2 := by
  cases c with
  | query =>
      cases hc
      simp only [Prepared.answer, h, State.runQuery_state]
  | update =>
      cases hc
      rw [← State.runUpdate_state]
      rcases hr : s.runUpdate p.sql ps with ⟨_ | ⟨affected, key⟩, s'⟩
      · simp only [Prepared.answer, h, hr]
      · simp only [Prepared.answer, h, hr]
  | _ => cases hc

end Scripted

namespace MySql

/-- MySQL's source keeps parameters as the protocol carries them. -/
theorem keepsInputs (pool : Pool) :
    (source pool).KeepsInputs Datum.ofParameter Prepared.inputs where
  after c p s := by
    have htake := p.inputs.take_cases Datum.ofParameter
    have hexecute : (pool.executeOnce p s).2.1.inputs = (p.inputs.take Datum.ofParameter).2 := by
      rcases htake with ⟨e, h⟩ | ⟨ps, h⟩
      · simp only [Pool.executeOnce, h]
      · simp only [Pool.executeOnce, h]
    cases c with
    | binding c => cases c <;> rfl
    | query => exact hexecute
    | update =>
        simp only [Pool.answerPrepared, Inputs.after, ← hexecute]
        rcases pool.executeOnce p s with ⟨_ | _, _, _⟩
        · rfl
        · rfl
    | batch =>
        simp only [Pool.answerPrepared, Inputs.after, Pool.executeBatch]
        split
        · rfl
        · rfl
    | _ => rfl
  reply c p s hc := by
    cases c with
    | supportsBatch => cases hc
    | sql => cases hc
    | _ => rfl
  still c p s h := by
    have hsame : (pool.answerPrepared (.binding c) p s).2.1 =
        { p with inputs := p.inputs.after Datum.ofParameter (.binding c) } := by
      cases c <;> rfl
    have hstate : (pool.answerPrepared (.binding c) p s).2.2 = s := rfl
    rw [h] at hsame
    exact Prod.ext hsame hstate
  refuses c p s e hc h := by
    have hrefused := Inputs.take_of_error h
    have hexecute : pool.executeOnce p s = (.error e, p, s) := by
      simp only [Pool.executeOnce, hrefused]
    cases c with
    | query =>
        simp only [Driver.Refuses, Pool.answerPrepared, hexecute]
        exact ⟨rfl, trivial⟩
    | update =>
        simp only [Driver.Refuses, Pool.answerPrepared, hexecute]
        exact ⟨rfl, trivial⟩
    | _ => cases hc

/-- An execution that takes its parameters is sent with them. -/
theorem state_answerPrepared (pool : Pool) {c : PreparedCall} {kind : Scripted.ExecutionKind}
    (hc : c.executionKind? = some kind) {p : Prepared} {ps : List Datum} {inputs : Inputs Datum}
    (h : p.inputs.take Datum.ofParameter = (.ok ps, inputs)) (s : State) :
    (pool.answerPrepared c p s).2.2 =
      (s.send pool.settings.socketTimeout p.link (.execute p.onServer.sql ps)).2 := by
  have hexecute : (pool.executeOnce p s).2.2 =
      (s.send pool.settings.socketTimeout p.link (.execute p.onServer.sql ps)).2 := by
    simp only [Pool.executeOnce, h]
  cases c with
  | query => exact hexecute
  | update =>
      rw [← hexecute]
      simp only [Pool.answerPrepared]
      rcases pool.executeOnce p s with ⟨_ | _, _, _⟩
      · rfl
      · rfl
  | _ => cases hc

end MySql

/-- **Both drivers handle parameters alike.**  Whatever calls have been made on
a statement of each with the same number of placeholders, the same values are
bound and the same entries are in the batch, and the next call is refused by
both or by none. -/
theorem handled_alike (pool : MySql.Pool) {n : Nat} {a : Scripted.Prepared} {b : MySql.Prepared}
    (ha : a.inputs = .ofCount n) (hb : b.inputs = .ofCount n) (s : Scripted.State)
    (t : MySql.State) (calls : List PreparedCall) :
    HandledAlike pool n calls (Scripted.source.afterCalls (a, s) calls)
      ((MySql.source pool).afterCalls (b, t) calls) := by
  have hscripted := Scripted.keepsInputs.afterCalls ha s calls
  have hmysql := (MySql.keepsInputs pool).afterCalls hb t calls
  generalize Scripted.source.afterCalls (a, s) calls = x at hscripted ⊢
  generalize (MySql.source pool).afterCalls (b, t) calls = y at hmysql ⊢
  have htaken : Inputs.missing? n calls = none →
      x.1.inputs.take id =
          (.ok (Inputs.pending n calls), { x.1.inputs with slots := .ofCount n }) ∧
        y.1.inputs.take MySql.Datum.ofParameter =
          (.ok ((Inputs.pending n calls).map MySql.Datum.ofParameter),
            { y.1.inputs with slots := .ofCount n }) := by
    intro hall
    rw [hscripted, hmysql, Inputs.take_ofHistory, Inputs.take_ofHistory, hall]
    simp
  constructor
  case slots =>
    rw [hscripted, hmysql]
    rfl
  case batch =>
    rw [hscripted, hmysql]
    simp [Inputs.ofHistory]
  case bound =>
    intro i q hq
    rw [hscripted] at hq
    simp only [Inputs.ofHistory, Slots.valueAt?_ofBound] at hq
    split at hq
    · rename_i hin
      exact ⟨hin, hq⟩
    · cases hq
  case refused =>
    intro c e h
    exact ⟨Scripted.keepsInputs.refuses_of_refusal? hscripted h,
      (MySql.keepsInputs pool).refuses_of_refusal? hmysql h⟩
  case missing =>
    intro i hi
    exact Slots.missing?_eq_some hi
  case accepted =>
    intro c hc h
    exact ⟨Scripted.keepsInputs.accepts_of_refusal?_none hscripted hc h,
      (MySql.keepsInputs pool).accepts_of_refusal?_none hmysql hc h⟩
  case values =>
    intro hall
    exact Slots.valuesOf_of_missing?_none hall
  case added =>
    intro hall
    obtain ⟨h, h'⟩ := htaken hall
    constructor
    · simp only [Scripted.Prepared.answer, Inputs.answer, h]
    · simp only [MySql.Pool.answerPrepared, Inputs.answer, h']
  case executed =>
    intro hall c kind hc
    obtain ⟨h, h'⟩ := htaken hall
    exact ⟨Scripted.state_answer hc h x.2, MySql.state_answerPrepared pool hc h' y.2⟩

/-- Two placeholders are given values out of order, one of them twice, between
refused calls. -/
theorem handled_alike_out_of_order :
    let pool : MySql.Pool := ⟨"pool", "app", false, none, .standard 4⟩
    let a : Scripted.Prepared :=
      { sql := "UPDATE t SET a = ? WHERE b = ?", inputs := .ofCount 2, returnsKeys := false,
        supportsBatch := true }
    let b : MySql.Prepared :=
      { link := 0, sql := "UPDATE t SET a = ? WHERE b = ?",
        onServer := ⟨0, "UPDATE t SET a = ? WHERE b = ?", []⟩, inputs := .ofCount 2,
        returnsKeys := false }
    -- The latest call comes first.
    let calls : List PreparedCall :=
      [.binding (.bind 2 (.string "c")), .binding (.bind 3 (.string "x")),
        .binding (.bind 1 (.bool true)), .binding .addBatch, .binding (.bind 2 (.string "b"))]
    (a.inputs = .ofCount 2 ∧ b.inputs = .ofCount 2) ∧
      HandledAlike pool 2 calls (Scripted.source.afterCalls (a, {}) calls)
        ((MySql.source pool).afterCalls (b, { server := {} }) calls) ∧
      Inputs.pending 2 calls = [.bool true, .string "c"] :=
  ⟨⟨rfl, rfl⟩, handled_alike _ rfl rfl _ _ _, rfl⟩

end SqlAccess
