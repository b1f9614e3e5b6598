import SqlAccess.Bean.Converter
import SqlAccess.Proofs.Value.Fetch
import SqlAccess.Proofs.Text.ReadBack
import SqlAccess.Text.Fold

/-!
# Identifiers are read alike

There are two ways to an identifier: a column is fetched as one, or the converter
`Converter.stringToUuid` makes one of what was fetched.  Both take NULL, an
identifier, a text and bytes, and give the same for each; both refuse everything
else.

A text may have any of four layouts, which differ in length, and its letters may
be capitals or not: no digit, hyphen, brace or blank is told by its case, so a text
is read as its lower-case form is.

* `Text.toLower_ignored` — what ignores the case of letters;
* `Uuid.ofText?_map_toLower` — reading does;
* `Uuid.layouts` and `Uuid.ofText?_of_mem_layouts` — the layouts, and that all of
  them are read back;
* `Value.identifiers_read_alike` — **the converter and the typed getter agree**.
-/

namespace SqlAccess

open Text

namespace Text

/-! ## Letter case -/

/-- Only the 26 capitals have another lower-case form. -/
theorem toLower_eq_self_or (c : Char) :
    c.toLower = c ∨ ∃ n < 26, c = Char.ofNat (n + 65) := by
  by_cases hupper : 65 ≤ c.toNat ∧ c.toNat ≤ 90
  · refine .inr ⟨c.toNat - 65, by omega, ?_⟩
    rw [Nat.sub_add_cancel hupper.1, Char.ofNat_toNat]
  · have hval : ¬ (c.val ≥ 65 ∧ c.val ≤ 90) := by
      simp only [ge_iff_le, UInt32.le_iff_toNat_le]
      exact hupper
    exact .inl (dif_neg hval)

/-- **What takes the capitals for their lower-case forms ignores case.** -/
theorem toLower_ignored {β : Type} {f : Char → β}
    (hf : ∀ n < 26, f (Char.ofNat (n + 65)).toLower = f (Char.ofNat (n + 65))) (c : Char) :
    f c.toLower = f c := by
  rcases toLower_eq_self_or c with hself | ⟨n, hn, rfl⟩
  · rw [hself]
  · exact hf n hn

theorem hexValue?_toLower (c : Char) : hexValue? c.toLower = hexValue? c :=
  toLower_ignored (by decide) c

theorem isBlank_toLower (c : Char) : isBlank c.toLower = isBlank c :=
  toLower_ignored (by decide) c

/-- A sign is found in any case where it stands. -/
theorem map_toLower_beq_some (sign : Char)
    (h : ∀ n < 26, ((Char.ofNat (n + 65)).toLower == sign) = (Char.ofNat (n + 65) == sign))
    (o : Option Char) : (o.map Char.toLower == some sign) = (o == some sign) := by
  cases o with
  | none => rfl
  | some c => exact toLower_ignored (f := (· == sign)) h c

/-- Digits are read in any case. -/
theorem readHex?_map_toLower : ∀ cs : List Char, readHex? (cs.map Char.toLower) = readHex? cs
  | [] => rfl
  | [_] => rfl
  | a :: b :: rest => by
      simp only [List.map_cons, readHex?, hexValue?_toLower, readHex?_map_toLower rest]

/-- Blanks are found in any case. -/
theorem isBlank_of_map_toLower {cs : List Char}
    (h : ∀ c ∈ cs.map Char.toLower, isBlank c = false) : ∀ c ∈ cs, isBlank c = false := by
  intro c hc
  rw [← isBlank_toLower]
  exact h _ (List.mem_map_of_mem hc)

end Text

namespace Uuid

theorem ungroup?_map_toLower (cs : List Char) :
    ungroup? (cs.map Char.toLower) = (ungroup? cs).map (List.map Char.toLower) := by
  unfold ungroup?
  simp only [List.getElem?_map, map_toLower_beq_some '-' (by decide)]
  split
  · simp only [Option.map_some, List.map_append, List.map_take, List.map_drop]
  · rfl

theorem ofPlain?_map_toLower (cs : List Char) : ofPlain? (cs.map Char.toLower) = ofPlain? cs := by
  rw [ofPlain?, readHex?_map_toLower, ofPlain?]

theorem ofGrouped?_map_toLower (cs : List Char) :
    ofGrouped? (cs.map Char.toLower) = ofGrouped? cs := by
  unfold ofGrouped?
  rw [ungroup?_map_toLower]
  cases ungroup? cs with
  | none => rfl
  | some ds => exact ofPlain?_map_toLower ds

/-- Braces are found in any case. -/
theorem inBraces_map_toLower (cs : List Char) :
    ((cs.map Char.toLower).head? = some '\x7b' ∧ (cs.map Char.toLower).getLast? = some '\x7d') ↔
      (cs.head? = some '\x7b' ∧ cs.getLast? = some '\x7d') := by
  have hopen := map_toLower_beq_some '\x7b' (by decide) cs.head?
  have hclose := map_toLower_beq_some '\x7d' (by decide) cs.getLast?
  rw [Bool.eq_iff_iff, beq_iff_eq, beq_iff_eq] at hopen hclose
  rw [List.head?_map, List.getLast?_map, hopen, hclose]

/-- **An identifier is read in any letter case.** -/
theorem ofText?_map_toLower (cs : List Char) : ofText? (cs.map Char.toLower) = ofText? cs := by
  have htwice (ds : List Char) : (ds.map Char.toLower).map Char.toLower = ds.map Char.toLower := by
    rw [List.map_map]
    exact List.map_congr_left fun c _ => toLower_ignored (by decide) c
  unfold ofText?
  simp only [List.length_map, ofPlain?_map_toLower, ofGrouped?_map_toLower, inBraces_map_toLower,
    ← List.map_take, ← List.map_drop, ← List.map_dropLast, htwice]

/-! ## Layouts -/

/-- The texts of an identifier: its digits, in groups, in groups in braces, and as
a URN. -/
def layouts (u : Uuid) : List (List Char) :=
  [hexText u.bytes, u.text, '\x7b' :: u.text ++ ['\x7d'], "urn:uuid:".toList ++ u.text]

theorem length_digits (u : Uuid) : (hexText u.bytes).length = 32 := by
  rw [length_hexText, u.length_eq]

theorem length_text (u : Uuid) : u.text.length = 36 := length_group u.length_digits

theorem ofGrouped?_text (u : Uuid) : ofGrouped? u.text = some u := by
  have hread := u.ofText?_text
  rwa [ofText?, u.length_text] at hread

/-- **An identifier is read back from each of its layouts.** -/
theorem ofText?_of_mem_layouts {u : Uuid} {layout : List Char} (h : layout ∈ u.layouts) :
    ofText? layout = some u := by
  simp only [layouts, List.mem_cons, List.not_mem_nil, or_false] at h
  rcases h with rfl | rfl | rfl | rfl
  · unfold ofText? ofPlain?
    rw [u.length_digits]
    simp only [readHex?_hexText, Option.bind_some]
    exact dif_pos u.length_eq
  · exact u.ofText?_text
  · have hlength : ('\x7b' :: u.text ++ ['\x7d']).length = 38 := by
      rw [List.length_append, List.length_cons, u.length_text]
      rfl
    have hbraces : ('\x7b' :: u.text ++ ['\x7d']).head? = some '\x7b' ∧
        ('\x7b' :: u.text ++ ['\x7d']).getLast? = some '\x7d' :=
      ⟨rfl, List.getLast?_concat⟩
    have hinside : (('\x7b' :: u.text ++ ['\x7d']).drop 1).dropLast = u.text := List.dropLast_concat
    unfold ofText?
    rw [hlength]
    simp only [if_pos hbraces, hinside]
    exact u.ofGrouped?_text
  · have hlength : ("urn:uuid:".toList ++ u.text).length = 45 := by
      rw [List.length_append, u.length_text]
      rfl
    have htake : ("urn:uuid:".toList ++ u.text).take 9 = "urn:uuid:".toList := List.take_left' rfl
    have hdrop : ("urn:uuid:".toList ++ u.text).drop 9 = u.text := List.drop_left' rfl
    have hlower : "urn:uuid:".toList.map Char.toLower = "urn:uuid:".toList := by decide
    unfold ofText?
    rw [hlength]
    simp only [htake, hdrop, if_pos hlower]
    exact u.ofGrouped?_text

/-- No layout holds blanks. -/
theorem isBlank_of_mem_layouts {u : Uuid} {layout : List Char} (h : layout ∈ u.layouts) :
    ∀ c ∈ layout, isBlank c = false := by
  have htext : ∀ c ∈ u.text, isBlank c = false := by
    intro c hc
    rcases mem_group hc with rfl | hdigit
    · decide
    · exact isBlank_of_mem_hexText hdigit
  simp only [layouts, List.mem_cons, List.not_mem_nil, or_false] at h
  rcases h with rfl | rfl | rfl | rfl
  · exact fun c hc => isBlank_of_mem_hexText hc
  · exact htext
  · intro c hc
    rcases List.mem_append.mp hc with hc | hc
    · rcases List.mem_cons.mp hc with rfl | hc
      · decide
      · exact htext c hc
    · rw [List.mem_singleton.mp hc]
      decide
  · intro c hc
    rcases List.mem_append.mp hc with hc | hc
    · have hnone : "urn:uuid:".toList.all (!isBlank ·) = true := by decide
      simpa using List.all_eq_true.mp hnone c hc
    · exact htext c hc

end Uuid

/-! ## Two ways to an identifier -/

namespace Value

/-- Both ways lead from a value to an identifier. -/
def ReadAs (v : Value) (u : Uuid) : Prop :=
  Converter.stringToUuid v = .ok (.uuid u) ∧ v.coerce .uuid = .ok (.uuid u)

/-- Both ways lead from any value to the same, or nowhere. -/
theorem stringToUuid_eq_ok_iff {v w : Value} :
    Converter.stringToUuid v = .ok w ↔ v.coerce .uuid = .ok w := by
  cases v with
  | string s =>
      simp only [Converter.stringToUuid, coerce, coerce?, coerceUuid?, isNull]
      cases Uuid.ofText? (trim s.toList) <;> simp
  | bytes b =>
      simp only [Converter.stringToUuid, coerce, coerce?, coerceUuid?, isNull]
      cases Uuid.ofBytes? b.data.toList <;> simp
  | _ => simp [Converter.stringToUuid, coerce, coerce?, coerceUuid?, isNull]

/-- A text is read in each layout, in any letter case and among blanks. -/
theorem readAs_of_layout {u : Uuid} {layout : List Char} (hlayout : layout ∈ u.layouts)
    {before s after : String} (hbefore : IsBlankText before) (hafter : IsBlankText after)
    (hs : lowerCase s = layout) : (string (before ++ s ++ after)).ReadAs u := by
  have hblanks : ∀ c ∈ s.toList, isBlank c = false := by
    apply isBlank_of_map_toLower
    rw [← lowerCase, hs]
    exact Uuid.isBlank_of_mem_layouts hlayout
  have htrim : trim (before ++ s ++ after).toList = s.toList := by
    rw [String.toList_append, String.toList_append,
      trim_append_blanks (isBlank_of_mem_of_isBlankText hbefore)
        (isBlank_of_mem_of_isBlankText hafter), trim_of_no_blanks hblanks]
  have hread : Uuid.ofText? (trim (before ++ s ++ after).toList) = some u := by
    rw [htrim, ← Uuid.ofText?_map_toLower, ← lowerCase, hs]
    exact Uuid.ofText?_of_mem_layouts hlayout
  have hcoerce : (string (before ++ s ++ after)).coerce .uuid = .ok (.uuid u) := by
    apply coerce_of_coerce? rfl
    rw [coerce?, coerceUuid?, hread, Option.map_some]
  exact ⟨stringToUuid_eq_ok_iff.mpr hcoerce, hcoerce⟩

/-- The bytes of an identifier are read. -/
theorem readAs_bytes (u : Uuid) : (bytes ⟨u.bytes.toArray⟩).ReadAs u := by
  have hread : Uuid.ofBytes? u.bytes = some u := dif_pos u.length_eq
  have hcoerce : (bytes ⟨u.bytes.toArray⟩).coerce .uuid = .ok (.uuid u) := by
    apply coerce_of_coerce? rfl
    rw [coerce?, coerceUuid?, List.toList_toArray, hread, Option.map_some]
  exact ⟨stringToUuid_eq_ok_iff.mpr hcoerce, hcoerce⟩

/-- **The converter and the typed getter agree.**  They make the same of every
value, or neither makes anything of it.  And they read an identifier from each of
its layouts, in any letter case and with blanks around it, and from its bytes. -/
theorem identifiers_read_alike :
    (∀ v w : Value, Converter.stringToUuid v = .ok w ↔ v.coerce .uuid = .ok w) ∧
    ∀ u : Uuid,
      (∀ layout ∈ u.layouts, ∀ before s after : String, IsBlankText before →
        IsBlankText after → lowerCase s = layout → (string (before ++ s ++ after)).ReadAs u) ∧
      ∃ b, (uuid u).coerce .bytes = .ok (.bytes b) ∧ (bytes b).ReadAs u :=
  ⟨fun _ _ => stringToUuid_eq_ok_iff,
    fun u => ⟨fun _ hlayout _ _ _ hbefore hafter hs => readAs_of_layout hlayout hbefore hafter hs,
      _, rfl, readAs_bytes u⟩⟩

/-- An identifier whose letters are capitals or not, between a tabulator and an
ideographic space. -/
theorem identifiers_read_alike_in_capitals :
    let u : Uuid := ⟨[0x67, 0xe5, 0x50, 0x44, 0x10, 0xb1, 0x42, 0x6f, 0x92, 0x47, 0xbb, 0x68, 0x0e,
      0x5f, 0xe0, 0xc8], rfl⟩
    let s := "67E55044-10b1-426F-9247-bb680E5fe0C8"
    u.text ∈ u.layouts ∧ IsBlankText "\t" ∧ IsBlankText "\u3000" ∧ lowerCase s = u.text ∧
      (string ("\t" ++ s ++ "\u3000")).ReadAs u := by
  intro u s
  have hlayout : u.text ∈ u.layouts := List.mem_cons_of_mem _ List.mem_cons_self
  have hbefore : IsBlankText "\t" := by decide
  have hafter : IsBlankText "\u3000" := by decide
  have hlower : lowerCase s = u.text := by decide
  exact ⟨hlayout, hbefore, hafter, hlower,
    (identifiers_read_alike.2 u).1 u.text hlayout "\t" s "\u3000" hbefore hafter hlower⟩

end Value

end SqlAccess
