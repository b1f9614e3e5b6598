import Mathlib.Data.List.Dedup
import SqlAccess.Proofs.Bean.Memory

/-!
# The instances of a registry

A registry is asked whether it has an instance of a type, is given one, or is
asked for one, which it creates if there is none.  What it holds follows from what
happened to it: for each type that was given or asked for, the instance that was
given last, or, when none ever was, the one that was created when the type was
first asked for.

What is created for a type need not be the same at each time, so steps of one type
may come with initial instances that differ.  The one in place is kept.

* `Registry.Step` and `Registry.after` — what may happen, and what comes of it;
* `lastRegistered`, `firstCreated`, `inUse` — the instance of a type, told from the
  history;
* `find?_after` — it is the one that is found;
* `mem_names_after`, `size_after` — the types that have an instance, each once;
* `instances_by_history` — **a registry's instances follow from its history**.
-/

namespace SqlAccess

namespace Registry

/-! ## Insertion -/

/-- The names of the types that have an instance. -/
def names (r : Registry) : List String := r.entries.map Prod.fst

theorem isSome_find?_iff {r : Registry} {name : String} :
    (r.find? name).isSome = true ↔ name ∈ r.names := by
  simp [find?, names, List.lookup_isSome_iff]

/-- Instances that are changed in place are found where they were. -/
theorem lookup_map (entries : List (String × Converter)) (f : String → Converter → Converter)
    (name : String) :
    (entries.map fun entry => (entry.1, f entry.1 entry.2)).lookup name =
      (entries.lookup name).map (f name) := by
  induction entries with
  | nil => rfl
  | cons entry rest ih =>
      obtain ⟨n, c⟩ := entry
      by_cases hname : name = n
      · simp [hname]
      · have hother : (name == n) = false := beq_false_of_ne hname
        simp [List.lookup_cons, hother, ih]

/-- What is inserted for a type that has an instance takes its place. -/
theorem entries_insert {r : Registry} {name : String} (h : (r.find? name).isSome = true)
    (c : Converter) : (r.insert name c).entries =
      r.entries.map fun entry => (entry.1, if entry.1 == name then c else entry.2) := by
  rw [insert, if_pos h]
  apply List.map_congr_left
  rintro ⟨n, old⟩ _
  by_cases hn : n == name
  · simp only [if_pos hn]
  · simp only [if_neg hn]

/-- **What is inserted is found, and everything else as before.** -/
theorem find?_insert_eq (r : Registry) (name : String) (c : Converter) (other : String) :
    (r.insert name c).find? other = if other = name then some c else r.find? other := by
  cases hfind : r.find? name with
  | none =>
      rw [find?_insert hfind]
      by_cases hname : other = name
      · simp [hname, hfind]
      · simp [hname]
  | some old =>
      have hsome : (r.find? name).isSome = true := by rw [hfind]; rfl
      rw [find?, entries_insert hsome,
        lookup_map r.entries fun n old => if n == name then c else old]
      by_cases hname : other = name
      · rw [find?] at hfind
        simp [hname, hfind]
      · simp [hname, find?]

theorem names_insert (r : Registry) (name : String) (c : Converter) :
    (r.insert name c).names = if name ∈ r.names then r.names else r.names ++ [name] := by
  by_cases hname : name ∈ r.names
  · rw [if_pos hname, names, entries_insert (isSome_find?_iff.mpr hname), List.map_map]
    rfl
  · have hnone : ¬ (r.find? name).isSome = true := fun h => hname (isSome_find?_iff.mp h)
    rw [if_neg hname, names, insert, if_neg hnone, List.map_append]
    rfl

theorem mem_names_insert {r : Registry} {name other : String} {c : Converter} :
    other ∈ (r.insert name c).names ↔ other = name ∨ other ∈ r.names := by
  rw [names_insert]
  split
  · next hname => exact ⟨.inr, fun h => h.elim (fun heq => heq ▸ hname) id⟩
  · rw [List.mem_append, List.mem_singleton, or_comm]

/-- No type has two instances. -/
theorem names_insert_nodup {r : Registry} (h : r.names.Nodup) (name : String) (c : Converter) :
    (r.insert name c).names.Nodup := by
  rw [names_insert]
  split
  · exact h
  · next hname => exact (List.concat_eq_append).symm ▸ h.concat hname

/-! ## What happens to a registry -/

/-- What may happen to a registry. -/
inductive Step where
  | contains (t : ConverterType)
  | register (t : ConverterType) (c : Converter)
  | getOrCreate (t : ConverterType)

/-- The type that a step is about. -/
def Step.type : Step → ConverterType
  | contains t => t
  | register t _ => t
  | getOrCreate t => t

/-- The name of the type that has an instance after a step in any case. -/
def Step.provides? : Step → Option String
  | contains _ => none
  | register t _ => some t.name
  | getOrCreate t => some t.name

/-- A new registry after what happened to it, the latest first. -/
def after : List Step → Registry
  | [] => empty
  | .contains _ :: earlier => after earlier
  | .register t c :: earlier => (after earlier).register t c
  | .getOrCreate t :: earlier => ((after earlier).getOrCreate t).2

/-- The instance of a type that was registered last. -/
def lastRegistered (name : String) : List Step → Option Converter
  | [] => none
  | .register t c :: earlier => if name = t.name then some c else lastRegistered name earlier
  | .contains _ :: earlier => lastRegistered name earlier
  | .getOrCreate _ :: earlier => lastRegistered name earlier

/-- The instance that is created when a type is first asked for, if none was
registered before. -/
def firstCreated (name : String) : List Step → Option Converter
  | [] => none
  | .getOrCreate t :: earlier =>
    (firstCreated name earlier).or (if name = t.name then some t.initial else none)
  | .contains _ :: earlier => firstCreated name earlier
  | .register _ _ :: earlier => firstCreated name earlier

/-- The instance of a type that is in use: a registered one, or else a created
one. -/
def inUse (name : String) (history : List Step) : Option Converter :=
  (lastRegistered name history).or (firstCreated name history)

/-- The names of the types that were registered or asked for. -/
def provided (history : List Step) : List String := history.filterMap Step.provides?

/-! ## What is held -/

variable {history : List Step}

/-- Asking for an instance creates the one in use only if there is none. -/
theorem inUse_getOrCreate (name : String) (t : ConverterType) (history : List Step) :
    inUse name (.getOrCreate t :: history) =
      (inUse name history).or (if name = t.name then some t.initial else none) :=
  (Option.or_assoc ..).symm

theorem find?_getOrCreate (r : Registry) (t : ConverterType) (name : String) :
    (r.getOrCreate t).2.find? name =
      (r.find? name).or (if name = t.name then some t.initial else none) := by
  unfold getOrCreate
  cases hfind : r.find? t.name with
  | none => exact find?_insert hfind t.initial name
  | some c =>
      by_cases hname : name = t.name
      · rw [hname, hfind, Option.some_or]
      · rw [if_neg hname, Option.or_none]

/-- **The instance that is found is the one in use.** -/
theorem find?_after (history : List Step) (name : String) :
    (after history).find? name = inUse name history := by
  induction history with
  | nil => rfl
  | cons step earlier ih =>
      cases step with
      | contains t => exact ih
      | register t c =>
          rw [after, register, find?_insert_eq, ih]
          by_cases hname : name = t.name
          · simp only [inUse, lastRegistered, if_pos hname, Option.some_or]
          · simp only [inUse, lastRegistered, firstCreated, if_neg hname]
      | getOrCreate t => rw [after, find?_getOrCreate, ih, inUse_getOrCreate]

theorem mem_names_getOrCreate {r : Registry} {t : ConverterType} {name : String} :
    name ∈ (r.getOrCreate t).2.names ↔ name = t.name ∨ name ∈ r.names := by
  unfold getOrCreate
  cases hfind : r.find? t.name with
  | none => exact mem_names_insert
  | some c =>
      have hold : t.name ∈ r.names := isSome_find?_iff.mp (by rw [hfind]; rfl)
      exact ⟨.inr, fun h => h.elim (fun heq => heq ▸ hold) id⟩

/-- The types that have an instance are those that were registered or asked for. -/
theorem mem_names_after {name : String} :
    name ∈ (after history).names ↔ name ∈ provided history := by
  induction history with
  | nil => exact Iff.rfl
  | cons step earlier ih =>
      cases step with
      | contains t => exact ih
      | register t c =>
          have hprovided : provided (.register t c :: earlier) = t.name :: provided earlier := rfl
          rw [after, register, mem_names_insert, ih, hprovided, List.mem_cons]
      | getOrCreate t =>
          have hprovided : provided (.getOrCreate t :: earlier) = t.name :: provided earlier := rfl
          rw [after, mem_names_getOrCreate, ih, hprovided, List.mem_cons]

theorem names_after_nodup (history : List Step) : (after history).names.Nodup := by
  induction history with
  | nil => exact List.nodup_nil
  | cons step earlier ih =>
      cases step with
      | contains t => exact ih
      | register t c => exact names_insert_nodup ih t.name c
      | getOrCreate t =>
          rw [after, getOrCreate]
          split
          · exact ih
          · exact names_insert_nodup ih t.name t.initial

/-- As many instances as types. -/
theorem size_after (history : List Step) :
    (after history).size = (provided history).dedup.length := by
  have hperm : (after history).names.Perm (provided history).dedup :=
    (List.perm_ext_iff_of_nodup (names_after_nodup history) (List.nodup_dedup _)).mpr fun name => by
      rw [mem_names_after, List.mem_dedup]
  rw [← hperm.length_eq, names, List.length_map]
  rfl

/-- A step changes nothing for other types. -/
theorem find?_after_of_ne {step : Step} {name : String} (h : name ≠ step.type.name)
    (history : List Step) : (after (step :: history)).find? name = (after history).find? name := by
  cases step with
  | contains t => rfl
  | register t c =>
      have hname : name ≠ t.name := h
      rw [after, register, find?_insert_eq, if_neg hname]
  | getOrCreate t =>
      have hname : name ≠ t.name := h
      rw [after, find?_getOrCreate, if_neg hname, Option.or_none]

theorem contains_after_iff {t : ConverterType} :
    (after history).contains t = true ↔ t.name ∈ provided history := by
  rw [contains, isSome_find?_iff, mem_names_after]

/-- What was provided stays so. -/
theorem mem_provided_cons {name : String} (h : name ∈ provided history) (step : Step) :
    name ∈ provided (step :: history) := by
  unfold provided at h ⊢
  rw [List.filterMap_cons]
  cases step.provides? with
  | none => exact h
  | some other => exact List.mem_cons_of_mem other h

/-- What a new registry is after a history, and what one more step does to it. -/
structure FollowsFrom (history : List Step) : Prop where
  /-- It holds the types that were registered or asked for, -/
  contains_iff : ∀ t : ConverterType, (after history).contains t = true ↔ t.name ∈ provided history
  /-- each of them once. -/
  size_eq : (after history).size = (provided history).dedup.length
  /-- Asked for a type, it gives the instance that was registered last.  If none
  ever was, it gives the one created first, which is created now if there is none. -/
  getOrCreate_eq : ∀ t : ConverterType, ((after history).getOrCreate t).1 =
    ((lastRegistered t.name history).or (firstCreated t.name history)).getD t.initial
  /-- Asking whether there is an instance creates none. -/
  creates_none : ∀ t, after (.contains t :: history) = after history
  /-- No step takes an instance away. -/
  keeps : ∀ step (t : ConverterType), (after history).contains t = true →
    (after (step :: history)).contains t = true
  /-- A step on one type leaves the others alone. -/
  others : ∀ step (t : ConverterType), t.name ≠ step.type.name →
    (after (step :: history)).find? t.name = (after history).find? t.name

/-- **A registry's instances follow from its history**, whatever is asked of it and
in whatever order. -/
theorem instances_by_history (history : List Step) : FollowsFrom history where
  contains_iff _ := contains_after_iff
  size_eq := size_after history
  getOrCreate_eq t := by
    have hinstance := instanceOf_eq (after history) t
    rw [find?_after] at hinstance
    exact hinstance
  creates_none _ := rfl
  keeps step _ h := contains_after_iff.mpr (mem_provided_cons (contains_after_iff.mp h) step)
  others _ _ h := find?_after_of_ne h history

end Registry

end SqlAccess
