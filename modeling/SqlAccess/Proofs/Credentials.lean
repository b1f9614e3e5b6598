import SqlAccess.Credentials
import SqlAccess.Proofs.Number.Integers

/-!
# Three ways to the same credentials

Fields set one after the other, environment variables and a record of settings are
three ways to tell the same choice of fields.  Each of them comes to the draft of the
choice, and so they give the same credentials or fail alike: the first of host, user
and pool name that is missing or empty decides.

* `Choice` — what is chosen, and `Choice.draft`;
* `Choice.Gives` — the credentials of a choice, or what is wrong with it;
* `Choice.SetBy`, `Choice.InEnvironment` and `Choice.InRecord` — the three ways;
* `three_ways_agree` — all ways give that.
-/

namespace SqlAccess.Credentials

/-! ## Choices -/

/-- The values chosen for the fields, where one is. -/
structure Choice where
  text : TextField → Option String
  port : Option UInt16

/-- The fields that must not be missing or empty, in the order of the check, with their
names in messages. -/
def requiredFields : List (String × TextField) :=
  [("Hostname", .host), ("Username", .user), ("Pool name", .pool)]

/-- What is wrong with the value of a required field. -/
def fault? : Option String → Option String
  | none => some "cannot be null."
  | some s => if s = "" then some "cannot be empty." else none

namespace Choice

/-- The draft with the chosen values. -/
def draft (c : Choice) : Draft where
  host := c.text .host
  port := c.port.getD defaultPort
  user := c.text .user
  password := c.text .password
  schema := c.text .schema
  pool := c.text .pool

/-- What a choice gives: credentials with the chosen values, if nothing is wrong with a
required field; else the first of them is told of. -/
inductive Gives (c : Choice) : Except Error Credentials → Prop where
  | credentials {cred : Credentials} (hrequired : ∀ r ∈ requiredFields, fault? (c.text r.2) = none)
      (hhost : c.text .host = some cred.host) (hport : c.port.getD defaultPort = cred.port)
      (huser : c.text .user = some cred.user) (hpassword : c.text .password = cred.password)
      (hschema : c.text .schema = cred.schema) (hpool : c.text .pool = some cred.pool) :
      c.Gives (.ok cred)
  | refused (before after : List (String × TextField)) {what fault : String} {f : TextField}
      (hrequired : requiredFields = before ++ (what, f) :: after)
      (hbefore : ∀ r ∈ before, fault? (c.text r.2) = none)
      (h : fault? (c.text f) = some fault) :
      c.Gives (.error (.invalidArgument s!"{what} {fault}"))

end Choice

/-- A required text has a fault, which is told, or is one. -/
theorem required_cases (what : String) (value : Option String) :
    (∃ fault, fault? value = some fault ∧
        required what value = .error (.invalidArgument s!"{what} {fault}")) ∨
      ∃ s, fault? value = none ∧ value = some s ∧ required what value = .ok s := by
  have hnull : what ++ " cannot be null." = what ++ " " ++ "cannot be null." := by
    rw [String.append_assoc]
    rfl
  have hempty : what ++ " cannot be empty." = what ++ " " ++ "cannot be empty." := by
    rw [String.append_assoc]
    rfl
  cases value with
  | none => exact Or.inl ⟨_, rfl, congrArg (Except.error ∘ Error.invalidArgument) hnull⟩
  | some s =>
      by_cases hs : s = ""
      · refine Or.inl ⟨"cannot be empty.", by simp [fault?, hs], ?_⟩
        simp only [required, if_pos hs]
        exact congrArg (Except.error ∘ Error.invalidArgument) hempty
      · exact Or.inr ⟨s, by simp [fault?, hs], rfl, by simp [required, hs]⟩

/-- The draft of a choice is built to what the choice gives. -/
theorem Choice.gives_build_draft (c : Choice) : c.Gives c.draft.build := by
  simp only [Draft.build, draft]
  rcases required_cases "Hostname" (c.text .host) with ⟨fault, hfault, h⟩ | ⟨host, hhost, hhost', h⟩
  · rw [h]
    exact .refused [] _ rfl (by simp) hfault
  rw [h]
  rcases required_cases "Username" (c.text .user) with ⟨fault, hfault, h⟩ | ⟨user, huser, huser', h⟩
  · rw [h]
    exact .refused [("Hostname", .host)] _ rfl (by simp [hhost]) hfault
  rw [h]
  rcases required_cases "Pool name" (c.text .pool) with ⟨fault, hfault, h⟩ | ⟨pool, hpool, hpool', h⟩
  · rw [h]
    exact .refused [("Hostname", .host), ("Username", .user)] _ rfl (by simp [hhost, huser]) hfault
  rw [h]
  exact .credentials (by simp [requiredFields, hhost, huser, hpool]) hhost' rfl huser' rfl rfl hpool'

/-! ## Fields set one after the other -/

/-- The value of an entry for a field that holds texts. -/
def Entry.text? (f : TextField) : Entry → Option String
  | text g s => if g = f then some s else none
  | port _ => none

/-- The value of an entry for the port. -/
def Entry.port? : Entry → Option UInt16
  | text _ _ => none
  | port n => some n

/-- The last values of the entries are the chosen ones. -/
structure Choice.SetBy (c : Choice) (entries : List Entry) : Prop where
  text : ∀ f, c.text f = (entries.filterMap (Entry.text? f)).getLast?
  port : c.port = (entries.filterMap Entry.port?).getLast?

namespace Draft

/-- The value of a field that holds texts. -/
def text? (d : Draft) : TextField → Option String
  | .host => d.host
  | .user => d.user
  | .password => d.password
  | .schema => d.schema
  | .pool => d.pool

/-- A field has the value that it is set to, and keeps its own when others are set. -/
theorem text?_set (d : Draft) (e : Entry) (f : TextField) :
    (d.set e).text? f = (e.text? f).or (d.text? f) := by
  cases e with
  | text g s => cases g <;> cases f <;> rfl
  | port n => cases f <;> rfl

theorem port_set (d : Draft) (e : Entry) : some (d.set e).port = e.port?.or (some d.port) := by
  cases e with
  | text g s => cases g <;> rfl
  | port n => rfl

/-- A draft is what its fields are. -/
theorem eq_of_fields {d d' : Draft} (htext : ∀ f, d.text? f = d'.text? f)
    (hport : d.port = d'.port) : d = d' := by
  obtain ⟨host, port, user, password, schema, pool⟩ := d
  obtain ⟨host', port', user', password', schema', pool'⟩ := d'
  exact (Draft.mk.injEq ..).mpr
    ⟨htext .host, hport, htext .user, htext .password, htext .schema, htext .pool⟩

/-- What each entry overrides in a draft, the last entry that has it overrides in the
end. -/
theorem read_foldl_set {α : Type} (read : Draft → Option α) (value? : Entry → Option α)
    (hset : ∀ d e, read (d.set e) = (value? e).or (read d)) (entries : List Entry) (d : Draft) :
    read (entries.foldl set d) = (entries.filterMap value?).getLast?.or (read d) := by
  induction entries generalizing d with
  | nil => rfl
  | cons e rest ih =>
      rw [List.foldl_cons, ih, hset]
      cases h : value? e with
      | none => rw [List.filterMap_cons_none h, Option.none_or]
      | some a =>
          rw [List.filterMap_cons_some h, List.getLast?_cons]
          cases (rest.filterMap value?).getLast? <;> rfl

end Draft

/-- Fields set one after the other come to the draft of their last values. -/
theorem Choice.SetBy.draft_eq {c : Choice} {entries : List Entry} (h : c.SetBy entries) :
    Draft.ofEntries entries = c.draft := by
  refine Draft.eq_of_fields (fun f => ?_) (Option.some.inj ?_)
  · rw [Draft.ofEntries, Draft.read_foldl_set (·.text? f) _ (fun d e => d.text?_set e f), ← h.text]
    cases f <;> exact Option.or_none
  · rw [Draft.ofEntries, Draft.read_foldl_set (some ·.port) _ Draft.port_set, ← h.port]
    cases hport : c.port <;> simp [draft, hport]

/-! ## The environment -/

/-- The last part of the name of the variable for a field. -/
def TextField.lastPart : TextField → String
  | host => "HOST"
  | user => "USER"
  | password => "PASSWORD"
  | schema => "SCHEMA"
  | pool => "POOL"

/-- The name of a variable by its two parts. -/
def variableName (first last : String) : String := s!"{first}_{last}"

/-- Just the variables of the chosen fields are there.  The one of the port holds its
decimal digits, with blanks around them or not. -/
structure Choice.InEnvironment (c : Choice) (lookup : String → Option String) (first : String) :
    Prop where
  text : ∀ f : TextField, lookup (variableName first f.lastPart) = c.text f
  port : ∃ before after : List Char, (∀ b ∈ before ++ after, Text.isBlank b = true) ∧
    lookup (variableName first "PORT") = c.port.map fun n =>
      String.ofList (before ++ Text.digits n.toNat ++ after)

/-- Digits are read on to their number, if it has 16 bits. -/
theorem readPortDigits_eq {ds : List Char} (hds : ∀ c ∈ ds, c.isDigit = true) {acc : Nat}
    (h : Nat.ofDigitChars 10 ds acc < 2 ^ 16) :
    readPortDigits acc ds = .ok (Nat.ofDigitChars 10 ds acc) := by
  induction ds generalizing acc with
  | nil => rfl
  | cons c rest ih =>
      rw [Nat.ofDigitChars_cons] at h ⊢
      have hc : c.isDigit = true := hds c List.mem_cons_self
      have hfits : 10 * acc + (c.toNat - '0'.toNat) < 2 ^ 16 :=
        Nat.lt_of_le_of_lt (Text.le_ofDigitChars rest _) h
      simp only [readPortDigits, hc, if_true, if_pos hfits]
      exact ih (fun d hd => hds d (List.mem_cons_of_mem c hd)) h

/-- A port is read back from its digits. -/
theorem readPort_digits (n : UInt16) : readPort (Text.digits n.toNat) = .ok n := by
  have hds : ∀ c ∈ Text.digits n.toNat, c.isDigit = true := fun c hc => Text.isDigit_of_mem_digits hc
  have hvalue : Nat.ofDigitChars 10 (Text.digits n.toNat) 0 = n.toNat := Text.digitsValue_digits _
  have hread : readPortDigits 0 (Text.digits n.toNat) = .ok n.toNat := by
    rw [readPortDigits_eq hds (by rw [hvalue]; exact n.toNat_lt), hvalue]
  obtain ⟨d, rest, hdigits⟩ := List.exists_cons_of_ne_nil (Text.digits_ne_nil n.toNat)
  rw [hdigits] at hds hread ⊢
  -- A digit in front is no plus.
  have hd : d ≠ '+' := by
    rintro rfl
    exact absurd (hds '+' List.mem_cons_self) (by decide)
  have hport : readPort (d :: rest) = (readPortDigits 0 (d :: rest)).map UInt16.ofNat := by
    unfold readPort
    split
    · next heq => cases heq
    · next heq => exact absurd (List.cons.inj heq).1 hd
    · next heq => exact absurd (List.cons.inj heq).1 hd
    · rfl
  rw [hport, hread]
  exact congrArg Except.ok UInt16.ofNat_toNat

/-- Blanks around the digits of a port are not read. -/
theorem trim_digits {before after : List Char}
    (h : ∀ b ∈ before ++ after, Text.isBlank b = true) (n : Nat) :
    Text.trim (before ++ Text.digits n ++ after) = Text.digits n := by
  rw [Text.trim_append_blanks (fun b hb => h b (List.mem_append_left after hb))
    (fun b hb => h b (List.mem_append_right before hb))]
  exact Text.trim_of_no_blanks fun c hc => Text.isBlank_of_isDigit (Text.isDigit_of_mem_digits hc)

/-- The environment comes to the draft. -/
theorem Choice.InEnvironment.ofEnvironment_eq {c : Choice} {lookup : String → Option String}
    {first : String} (h : c.InEnvironment lookup first) :
    ofEnvironment lookup first = c.draft.build := by
  obtain ⟨before, after, hblanks, hport⟩ := h.port
  have hhost : lookup (variableName first "HOST") = c.text .host := h.text .host
  have huser : lookup (variableName first "USER") = c.text .user := h.text .user
  have hpassword : lookup (variableName first "PASSWORD") = c.text .password := h.text .password
  have hschema : lookup (variableName first "SCHEMA") = c.text .schema := h.text .schema
  have hpool : lookup (variableName first "POOL") = c.text .pool := h.text .pool
  have hname (last : String) :
      toString first ++ toString "_" ++ toString last = variableName first last := rfl
  simp only [ofEnvironment, hname, hport, hhost, huser, hpassword, hschema, hpool]
  cases hc : c.port with
  | none =>
      simp only [Option.map_none, draft, hc]
      rfl
  | some n =>
      simp only [Option.map_some, String.toList_ofList, trim_digits hblanks, readPort_digits, draft,
        hc]
      rfl

/-! ## Records -/

/-- The names of a field in a record. -/
def TextField.names (f : TextField) : List String :=
  let names : FieldNames := {}
  match f with
  | host => names.host
  | user => names.user
  | password => names.password
  | schema => names.schema
  | pool => names.pool

/-- A record has a field with a value under one of its names; it may leave one without a
value out. -/
inductive HasField (settings : List (String × Setting)) (names : List String) : Setting → Prop where
  | leftOut (h : ∀ entry ∈ settings, entry.1 ∉ names) : HasField settings names .null
  | present (before after : List (String × Setting)) {name : String} {value : Setting}
      (hsettings : settings = before ++ (name, value) :: after) (hname : name ∈ names)
      (hothers : ∀ entry ∈ before ++ after, entry.1 ∉ names) : HasField settings names value

/-- Just the chosen fields have values in the record. -/
structure Choice.InRecord (c : Choice) (settings : List (String × Setting)) : Prop where
  text : ∀ f : TextField, HasField settings f.names ((c.text f).elim .null .text)
  port : HasField settings ["port"] (c.port.elim .null fun n => .number n.toNat)

/-- The setting of a field that the record has is its value. -/
theorem HasField.settingOf_eq {settings : List (String × Setting)} {names : List String}
    {value : Setting} (h : HasField settings names value) : settingOf settings names = .ok value := by
  have hnone {rest : List (String × Setting)} (hrest : ∀ entry ∈ rest, entry.1 ∉ names) :
      rest.filter (fun entry => names.contains entry.1) = [] := by
    simpa using hrest
  unfold settingOf
  cases h with
  | leftOut h => rw [hnone h]
  | @present before after name value hsettings hname hothers =>
      have hbefore := hnone fun entry h => hothers entry (List.mem_append_left after h)
      have hafter := hnone fun entry h => hothers entry (List.mem_append_right before h)
      have hkept : names.contains name = true := List.contains_iff_mem.mpr hname
      rw [hsettings, List.filter_append, List.filter_cons_of_pos (by exact hkept), hbefore,
        hafter]
      rfl

/-- The value of a text is read back from its setting. -/
theorem text?_elim (value : Option String) :
    (value.elim Setting.null Setting.text).text? = .ok value := by
  cases value <;> rfl

theorem port?_elim (port : Option UInt16) :
    (port.elim Setting.null fun n => .number n.toNat).port? = .ok port := by
  cases port with
  | none => rfl
  | some n =>
      simp only [Option.elim, Setting.port?, if_pos n.toNat_lt]
      exact congrArg (Except.ok ∘ some) UInt16.ofNat_toNat

private theorem ok_bind {α β : Type} (a : α) (f : α → Except ConfigError β) :
    (Except.ok a >>= f) = f a := rfl

/-- The settings of a choice come to its draft; what is wrong with it is told as such. -/
theorem Choice.ofSettings_eq (c : Choice) :
    let setting (f : TextField) : Setting := (c.text f).elim .null .text
    ofSettings (setting .host) (c.port.elim .null fun n => .number n.toNat) (setting .user)
      (setting .password) (setting .schema) (setting .pool) = c.draft.build.mapError .invalid := by
  have hdraft : draft c =
      { host := c.text .host, port := c.port.getD defaultPort, user := c.text .user,
        password := c.text .password, schema := c.text .schema, pool := c.text .pool } := rfl
  simp only [ofSettings, text?_elim, port?_elim, ok_bind, ← hdraft]
  cases c.draft.build <;> rfl

/-- So does a record. -/
theorem Choice.InRecord.ofConfig_eq {c : Choice} {settings : List (String × Setting)}
    (h : c.InRecord settings) :
    ofConfig (.record settings) = c.draft.build.mapError .invalid := by
  have hhost := (h.text .host).settingOf_eq
  have hport := h.port.settingOf_eq
  have huser := (h.text .user).settingOf_eq
  have hpassword := (h.text .password).settingOf_eq
  have hschema := (h.text .schema).settingOf_eq
  have hpool := (h.text .pool).settingOf_eq
  simp only [TextField.names] at hhost huser hpassword hschema hpool
  simp only [ofConfig, hhost, hport, huser, hpassword, hschema, hpool]
  exact c.ofSettings_eq

/-- **However they are told, the same choice gives the same credentials**, or fails with
the same error. -/
theorem three_ways_agree (c : Choice) {entries : List Entry} (hset : c.SetBy entries)
    {lookup : String → Option String} {first : String} (henv : c.InEnvironment lookup first)
    {settings : List (String × Setting)} (hrecord : c.InRecord settings) :
    ∃ r, c.Gives r ∧ (Draft.ofEntries entries).build = r ∧ ofEnvironment lookup first = r ∧
      ofConfig (.record settings) = r.mapError .invalid :=
  ⟨c.draft.build, c.gives_build_draft, congrArg Draft.build hset.draft_eq, henv.ofEnvironment_eq,
    hrecord.ofConfig_eq⟩

/-- A host and a port that are set twice, a port with blanks around it, and a record with
other names, a null and a setting of no field. -/
theorem three_ways_agree_on_repeats :
    let c : Choice :=
      ⟨fun | .host => some "db" | .user => some "app" | .pool => some "main" | _ => none, some 3307⟩
    let entries : List Entry :=
      [.text .host "old", .port 1, .text .pool "main", .text .host "db", .port 3307,
        .text .user "app"]
    let lookup : String → Option String := fun name =>
      [("DB_HOST", "db"), ("DB_PORT", " 3307\n"), ("DB_USER", "app"), ("DB_POOL", "main")].lookup name
    let settings : List (String × Setting) :=
      [("pool_name", .text "main"), ("hostname", .text "db"), ("password", .null),
        ("user", .text "app"), ("port", .number 3307), ("comment", .other)]
    c.SetBy entries ∧ c.InEnvironment lookup "DB" ∧ c.InRecord settings ∧
      ∃ r, c.Gives r ∧ (Draft.ofEntries entries).build = r ∧ ofEnvironment lookup "DB" = r ∧
        ofConfig (.record settings) = r.mapError .invalid := by
  intro c entries lookup settings
  have hset : c.SetBy entries := ⟨fun f => by cases f <;> rfl, rfl⟩
  have hblanks : ∀ b ∈ [' '] ++ ['\n'], Text.isBlank b = true := List.all_eq_true.mp (by decide)
  have henv : c.InEnvironment lookup "DB" :=
    ⟨fun f => by cases f <;> decide +kernel, [' '], ['\n'], hblanks, by decide +kernel⟩
  have hrecord : c.InRecord settings := by
    refine ⟨fun f => ?_, .present (settings.take 4) (settings.drop 5) rfl (by decide) (by decide)⟩
    cases f with
    | host => exact .present (settings.take 1) (settings.drop 2) rfl (by decide) (by decide)
    | user => exact .present (settings.take 3) (settings.drop 4) rfl (by decide) (by decide)
    | password => exact .present (settings.take 2) (settings.drop 3) rfl (by decide) (by decide)
    | schema => exact .leftOut (by decide)
    | pool => exact .present [] (settings.drop 1) rfl (by decide) (by decide)
  exact ⟨hset, henv, hrecord, three_ways_agree c hset henv hrecord⟩

end SqlAccess.Credentials
