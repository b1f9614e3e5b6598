import SqlAccess.PoolSettings

/-!
# Properties in a URL

Driver properties stand in the query of a URL as they are, a key and its value around an
equals sign and one property behind the other with an ampersand between.  Whoever knows
that keys have no equals sign and values no ampersand finds each key and each value
again, since both end at the first separator after them.  Otherwise a part of a value
may pass for another property.

* `IsSeparable` — properties whose parts end at the first separator;
* `propertiesText` — properties as the query has them;
* `propertiesText_inj` — the query tells separable properties apart;
* `separable_properties_told_apart` — **so does the URL**;
* `properties_mistaken` — properties that are not separable and not told apart.
-/

namespace SqlAccess

/-- A property whose key ends at the first equals sign and whose value ends at the first
ampersand after it. -/
structure IsSeparable (property : String × String) : Prop where
  key : '=' ∉ property.1.toList
  value : '&' ∉ property.2.toList

/-- A property as the query has it. -/
def propertyText (p : String × String) : String := p.1 ++ "=" ++ p.2

theorem toList_propertyText (p : String × String) :
    (propertyText p).toList = p.1.toList ++ '=' :: p.2.toList := by
  rw [propertyText, String.toList_append, String.toList_append, List.append_assoc]
  rfl

/-- The text of properties, each with an ampersand in front. -/
def propertiesText (ps : List (String × String)) : List Char :=
  ps.flatMap fun p => '&' :: (propertyText p).toList

theorem propertiesText_cons (p : String × String) (ps : List (String × String)) :
    propertiesText (p :: ps) = '&' :: (p.1.toList ++ '=' :: (p.2.toList ++ propertiesText ps)) := by
  rw [propertiesText, List.flatMap_cons, toList_propertyText, List.cons_append, List.append_assoc,
    List.cons_append]
  rfl

/-- A property is followed by the next one or by nothing. -/
theorem head?_propertiesText (ps : List (String × String)) :
    ∀ c ∈ (propertiesText ps).head?, c = '&' := by
  cases ps with
  | nil => exact nofun
  | cons p ps => rintro _ ⟨⟩; rfl

/-- A part without the separator is what stands before the first one. -/
theorem takeWhile_part {separator : Char} {part rest : List Char} (hpart : separator ∉ part)
    (hrest : ∀ c ∈ rest.head?, c = separator) :
    (part ++ rest).takeWhile (· != separator) = part := by
  have hall : ∀ c ∈ part, (c != separator) = true := by
    intro c hc
    exact bne_iff_ne.mpr fun heq => hpart (heq ▸ hc)
  have hnone : rest.takeWhile (· != separator) = [] := by
    cases rest with
    | nil => rfl
    | cons c rest => rw [hrest c rfl, List.takeWhile_cons_of_neg (by simp)]
  rw [List.takeWhile_append_of_pos hall, hnone, List.append_nil]

/-- Parts without the separator are the same if they stand before the same first
separator, and then so is the rest. -/
theorem part_inj {separator : Char} {part part' rest rest' : List Char}
    (hpart : separator ∉ part) (hpart' : separator ∉ part')
    (hrest : ∀ c ∈ rest.head?, c = separator) (hrest' : ∀ c ∈ rest'.head?, c = separator)
    (h : part ++ rest = part' ++ rest') : part = part' ∧ rest = rest' := by
  have heq : part = part' := by
    have htaken := congrArg (List.takeWhile (· != separator)) h
    rwa [takeWhile_part hpart hrest, takeWhile_part hpart' hrest'] at htaken
  subst heq
  exact ⟨rfl, List.append_cancel_left h⟩

/-- **Separable properties with the same text are the same.** -/
theorem propertiesText_inj {ps ps' : List (String × String)} (hps : ∀ p ∈ ps, IsSeparable p)
    (hps' : ∀ p ∈ ps', IsSeparable p) (h : propertiesText ps = propertiesText ps') : ps = ps' := by
  induction ps generalizing ps' with
  | nil =>
      cases ps' with
      | nil => rfl
      | cons p' ps' =>
          rw [propertiesText_cons] at h
          cases h
  | cons p ps ih =>
      cases ps' with
      | nil =>
          rw [propertiesText_cons] at h
          cases h
      | cons p' ps' =>
          have hp := hps p List.mem_cons_self
          have hp' := hps' p' List.mem_cons_self
          rw [propertiesText_cons, propertiesText_cons] at h
          -- The key ends at the first equals sign, the value at the first ampersand after it.
          obtain ⟨hkey, hafter⟩ := part_inj hp.key hp'.key (by simp) (by simp) (List.cons.inj h).2
          obtain ⟨hvalue, hnext⟩ := part_inj hp.value hp'.value (head?_propertiesText ps)
            (head?_propertiesText ps') (List.cons.inj hafter).2
          have htail := ih (fun q hq => hps q (List.mem_cons_of_mem p hq))
            (fun q hq => hps' q (List.mem_cons_of_mem p' hq)) hnext
          rw [Prod.ext (String.toList_inj.mp hkey) (String.toList_inj.mp hvalue), htail]

/-! ## The URL -/

/-- Texts with ampersands between are texts with an ampersand in front, but for the first. -/
theorem toList_intercalate_cons (s : String) (ss : List String) :
    '&' :: ("&".intercalate (s :: ss)).toList = (s :: ss).flatMap fun s => '&' :: s.toList := by
  induction ss generalizing s with
  | nil =>
      rw [String.intercalate_singleton, List.flatMap_cons, List.flatMap_nil, List.append_nil]
  | cons s' ss ih =>
      rw [String.intercalate_cons_cons, String.toList_append, String.toList_append,
        List.flatMap_cons, ← ih s', List.append_assoc]
      rfl

/-- The text of properties as a query: the first ampersand is a question mark there. -/
def asQuery : List Char → List Char
  | [] => []
  | _ :: cs => '?' :: cs

/-- Nothing is lost by this. -/
theorem asQuery_eq_iff {cs cs' : List Char} (h : ∀ c ∈ cs.head?, c = '&')
    (h' : ∀ c ∈ cs'.head?, c = '&') : asQuery cs = asQuery cs' ↔ cs = cs' := by
  cases cs with
  | nil =>
      cases cs' with
      | nil => exact iff_of_true rfl rfl
      | cons c' cs' => exact iff_of_false nofun nofun
  | cons c cs =>
      cases cs' with
      | nil => exact iff_of_false nofun nofun
      | cons c' cs' =>
          rw [h c rfl, h' c' rfl, asQuery, asQuery, List.cons_inj_right, List.cons_inj_right]

/-- After the base of a URL stand the properties as a query. -/
theorem toList_urlWithProperties (base : String) (ps : List (String × String)) :
    (urlWithProperties base ps).toList = base.toList ++ asQuery (propertiesText ps) := by
  cases ps with
  | nil => exact (List.append_nil _).symm
  | cons p ps =>
      have htext : propertiesText (p :: ps) =
          '&' :: ("&".intercalate ((p :: ps).map propertyText)).toList := by
        rw [List.map_cons, toList_intercalate_cons, ← List.map_cons, List.flatMap_map]
        rfl
      have hurl : urlWithProperties base (p :: ps) =
          base ++ "?" ++ "&".intercalate ((p :: ps).map propertyText) := rfl
      rw [hurl, htext, asQuery, String.toList_append, String.toList_append, List.append_assoc]
      rfl

/-- A URL tells apart what the text of the properties tells apart. -/
theorem urlWithProperties_eq_iff (base : String) (ps ps' : List (String × String)) :
    urlWithProperties base ps = urlWithProperties base ps' ↔
      propertiesText ps = propertiesText ps' := by
  rw [← String.toList_inj, toList_urlWithProperties, toList_urlWithProperties,
    List.append_cancel_left_eq, asQuery_eq_iff (head?_propertiesText ps) (head?_propertiesText ps')]

/-- **Separable properties are told apart by the URL**, whatever its base: it is the same
only if all keys and all values are. -/
theorem separable_properties_told_apart {ps ps' : List (String × String)} (base : String)
    (hps : ∀ p ∈ ps, IsSeparable p) (hps' : ∀ p ∈ ps', IsSeparable p) :
    urlWithProperties base ps = urlWithProperties base ps' ↔ ps = ps' := by
  rw [urlWithProperties_eq_iff]
  constructor
  · exact propertiesText_inj hps hps'
  · intro h
    rw [h]

/-- Values may have equals signs, and keys ampersands. -/
theorem told_apart_by_one_separator :
    let base := "mysql://h:3306/app"
    let ps := [("a", "1=b"), ("c", "2")]
    let ps' := [("a", "1"), ("b&c", "2")]
    ((∀ p ∈ ps, IsSeparable p) ∧ ∀ p ∈ ps', IsSeparable p) ∧
      urlWithProperties base ps ≠ urlWithProperties base ps' := by
  intro base ps ps'
  have hps : ∀ p ∈ ps, IsSeparable p :=
    List.forall_mem_cons.mpr ⟨⟨by decide, by decide⟩,
      List.forall_mem_singleton.mpr ⟨by decide, by decide⟩⟩
  have hps' : ∀ p ∈ ps', IsSeparable p :=
    List.forall_mem_cons.mpr ⟨⟨by decide, by decide⟩,
      List.forall_mem_singleton.mpr ⟨by decide, by decide⟩⟩
  refine ⟨⟨hps, hps'⟩, fun h => ?_⟩
  have hsame := (separable_properties_told_apart base hps hps').mp h
  exact absurd hsame (by decide)

/-- The URL takes one value for a value and another property, the end of a value for the
beginning of the next key, and the end of a key for the beginning of its value. -/
theorem properties_mistaken :
    let base := "mysql://h:3306/app"
    let none := PoolSettings.standard 1
    let one := (none.withProperty "a" "1&b=2").properties
    let two := ((none.withProperty "a" "1").withProperty "b" "2").properties
    let late := ((none.withProperty "a" "1&b").withProperty "c" "2").properties
    let early := ((none.withProperty "a" "1").withProperty "b&c" "2").properties
    let long := (none.withProperty "a=1" "2").properties
    let short := (none.withProperty "a" "1=2").properties
    (one ≠ two ∧ urlWithProperties base one = urlWithProperties base two) ∧
      (late ≠ early ∧ urlWithProperties base late = urlWithProperties base early) ∧
      long ≠ short ∧ urlWithProperties base long = urlWithProperties base short := by
  decide +kernel

end SqlAccess
