import RecipeResolver.Proofs.Profile.Writes

/-!
# Runs of edits

A profile comes about by edits: a key is set by its name or by an argument, or another profile,
which came about in the same way, is laid over it. An edit may be refused, and then the profile
stays as it is. `Edit.value?_next` says what one edit does to a key and `value?_run` what a run
does: the last edit that gives a value to the key counts. `trimmed_run` says that a run stores no
blanks around values.
-/

namespace RecipeResolver

namespace Settings

/-! ## Names -/

/-- The names that may be set. -/
def knownNames : List String :=
  ["os", "arch", "build_type", "compiler", "compiler.version", "compiler.libcxx",
    "compiler.runtime", "compiler.cppstd"]

theorem mem_knownNames_iff {name : String} :
    name ∈ knownNames ↔ ∃ key, SettingKey.ofName? name = some key := by
  have hnames : knownNames = SettingKey.all.map SettingKey.name := rfl
  rw [hnames, List.mem_map]
  constructor
  · rintro ⟨key, -, rfl⟩
    exact ⟨key, SettingKey.ofName?_eq_some_iff.2 rfl⟩
  · rintro ⟨key, hkey⟩
    refine ⟨key, ?_, (SettingKey.ofName?_eq_some_iff.1 hkey).symm⟩
    cases key <;> decide

theorem ofName?_eq_none_iff {name : String} :
    SettingKey.ofName? name = none ↔ name ∉ knownNames := by
  rw [mem_knownNames_iff, ← Option.isSome_iff_exists, Option.not_isSome_iff_eq_none]

/-- What is stored under a name. -/
def stored? (s : Settings) (name : String) : Option String :=
  (SettingKey.ofName? name).bind s.value?

theorem stored?_eq_some_iff {s : Settings} {name value : String} :
    s.stored? name = some value ↔
      ∃ key, SettingKey.ofName? name = some key ∧ s.value? key = some value :=
  Option.bind_eq_some_iff

/-- No stored value has blanks around it. -/
def Trimmed (s : Settings) : Prop :=
  ∀ key value, s.value? key = some value → Text.Trimmed value

theorem trimmed_empty : empty.Trimmed := fun _ _ h => nomatch h

/-! ## Edits -/

/-- One edit of a profile. What is laid over it is a profile that was edited before. -/
inductive Edit where
  | set (name value : String)
  | assign (input : String)
  | overlay (edits : List Edit)

mutual

/-- The profile after an edit. -/
def Edit.apply : Edit → Settings → Except SettingsError Settings
  | .set name value, s => s.set name value
  | .assign input, s => s.assign input
  | .overlay edits, s => .ok (s.merge (run edits empty))

/-- The profile after edits in turn. An edit that is refused leaves it as it is. -/
def run : List Edit → Settings → Settings
  | [], s => s
  | edit :: rest, s =>
    match edit.apply s with
    | .ok s' => run rest s'
    | .error _ => run rest s

end

namespace Edit

theorem apply_set (s : Settings) (name value : String) :
    (set name value).apply s = s.set name value := by
  rw [apply]

theorem apply_assign (s : Settings) (input : String) : (assign input).apply s = s.assign input := by
  rw [apply]

theorem apply_overlay (s : Settings) (edits : List Edit) :
    (overlay edits).apply s = .ok (s.merge (run edits empty)) := by
  rw [apply]

/-- The profile after an edit, which may be refused. -/
def next (edit : Edit) (s : Settings) : Settings :=
  match edit.apply s with
  | .ok s' => s'
  | .error _ => s

/-- The value that an edit gives to a key. -/
def given? : Edit → SettingKey → Option String
  | .set name value, key =>
    (written? name value).bind fun e => if e.1 = key then some e.2 else none
  | .assign input, key =>
    (argument? input).bind fun e => if e.1 = key then some e.2 else none
  | .overlay edits, key => (run edits empty).value? key

/-- An edit writes a value under a name. -/
inductive Writes : Edit → (name value : String) → Prop
  | set {name value : String} (hname : Text.trim name ∈ knownNames) :
      Writes (.set name value) (Text.trim name) (Text.trim value)
  /-- The part before the first equals sign is set to the part after it. -/
  | assign {input before after name value : String} (hinput : input = before ++ "=" ++ after)
      (hbefore : '=' ∉ before.toList) (hset : Writes (.set before after) name value) :
      Writes (.assign input) name value
  | overlay {edits : List Edit} {name value : String}
      (hstored : (run edits empty).stored? name = some value) : Writes (.overlay edits) name value

/-- An edit is refused, whatever the profile. -/
inductive Refused : Edit → SettingsError → Prop
  | set {name value : String} (hname : Text.trim name ∉ knownNames) :
      Refused (.set name value) (.unknownKey (Text.trim name))
  | malformed {input : String} (hinput : '=' ∉ input.toList) :
      Refused (.assign input) (.malformed input)
  | assign {input before after : String} {error : SettingsError}
      (hinput : input = before ++ "=" ++ after) (hbefore : '=' ∉ before.toList)
      (hset : Refused (.set before after) error) : Refused (.assign input) error

/-! ## One edit -/

/-- A step that writes one key, or fails, gives this key its value and leaves the others. -/
theorem value?_of_write {s : Settings} {result : Except SettingsError Settings}
    {write? : Option (SettingKey × String)}
    (h : ∀ s', result = .ok s' ↔ ∃ e, write? = some e ∧ s' = s.insert e.1 e.2) (key : SettingKey) :
    (match result with
      | .ok s' => s'
      | .error _ => s).value? key =
      (write?.bind fun e => if e.1 = key then some e.2 else none).or (s.value? key) := by
  cases hwrite : write? with
  -- a step that names no key cannot have succeeded
  | none =>
    cases hresult : result with
    | ok s' =>
      obtain ⟨e, he, -⟩ := (h s').1 hresult
      rw [hwrite] at he
      cases he
    | error _ => rfl
  | some e =>
    have hresult : result = .ok (s.insert e.1 e.2) := (h _).2 ⟨e, hwrite, rfl⟩
    rw [hresult, Option.bind_some]
    exact value?_insert_eq_or s e key

/-- An edit gives values to some keys and leaves the others. -/
theorem value?_next (edit : Edit) (s : Settings) (key : SettingKey) :
    (edit.next s).value? key = (edit.given? key).or (s.value? key) := by
  unfold next
  cases edit with
  | set name value =>
    rw [apply_set]
    exact value?_of_write (fun s' => set_eq_ok_iff) key
  | assign input =>
    rw [apply_assign]
    exact value?_of_write (fun s' => assign_eq_ok_iff) key
  | overlay edits =>
    rw [apply_overlay]
    rfl

/-- Setting a key by its name writes the value as it is, if there are no blanks around it. -/
theorem next_set (s : Settings) (key : SettingKey) {value : String} (hvalue : Text.Trimmed value) :
    (set key.name value).next s = s.insert key value := by
  have hkey : SettingKey.ofName? (Text.trim key.name) = some key := by cases key <;> rfl
  unfold next
  rw [apply_set]
  unfold Settings.set
  rw [hkey, Text.trim_eq_self hvalue]

/-- A value is given to the key that is written, and to no other one. -/
theorem given_write_iff {write? : Option (SettingKey × String)} {key : SettingKey} {v : String} :
    (write?.bind fun e => if e.1 = key then some e.2 else none) = some v ↔
      write? = some (key, v) := by
  cases write? with
  | none => simp
  | some e =>
    obtain ⟨k, value⟩ := e
    simp

theorem set_writes_iff {n v name value : String} : Writes (.set n v) name value ↔
    ∃ key, SettingKey.ofName? name = some key ∧ written? n v = some (key, value) := by
  simp only [written?_eq_some_iff, SettingKey.ofName?_eq_some_iff]
  constructor
  · rintro ⟨hname⟩
    obtain ⟨key, hkey⟩ := mem_knownNames_iff.1 hname
    have hname := SettingKey.ofName?_eq_some_iff.1 hkey
    exact ⟨key, hname, hname, rfl⟩
  · rintro ⟨key, rfl, hname, rfl⟩
    rw [← hname]
    exact .set (mem_knownNames_iff.2 ⟨key, SettingKey.ofName?_eq_some_iff.2 hname⟩)

/-- An argument writes what setting its parts does. -/
theorem assign_writes_iff {input name value : String} : Writes (.assign input) name value ↔
    ∃ parts, Text.cut? '=' input = some parts ∧ Writes (.set parts.1 parts.2) name value := by
  constructor
  · intro h
    cases h with
    | assign hinput hbefore hset =>
      exact ⟨_, Text.cut?_equals_eq_some_iff.2 ⟨hinput, hbefore⟩, hset⟩
  · rintro ⟨⟨before, after⟩, hcut, hset⟩
    obtain ⟨hinput, hbefore⟩ := Text.cut?_equals_eq_some_iff.1 hcut
    exact .assign hinput hbefore hset

/-- What an edit writes under a name is what it gives to the key of this name. -/
theorem writes_iff {edit : Edit} {name value : String} : edit.Writes name value ↔
    ∃ key, SettingKey.ofName? name = some key ∧ edit.given? key = some value := by
  cases edit with
  | set n v =>
    simp only [given?, given_write_iff]
    exact set_writes_iff
  | assign input =>
    simp only [given?, given_write_iff]
    simp only [argument?, Option.bind_eq_some_iff, assign_writes_iff, set_writes_iff]
    constructor
    · rintro ⟨parts, hcut, key, hkey, hwritten⟩
      exact ⟨key, hkey, parts, hcut, hwritten⟩
    · rintro ⟨key, hkey, parts, hcut, hwritten⟩
      exact ⟨parts, hcut, key, hkey, hwritten⟩
  | overlay edits =>
    constructor
    · intro h
      cases h with
      | overlay hstored => exact stored?_eq_some_iff.1 hstored
    · intro h
      exact .overlay (stored?_eq_some_iff.2 h)

theorem set_eq_error_iff {s : Settings} {name value : String} {error : SettingsError} :
    s.set name value = .error error ↔ Refused (.set name value) error := by
  unfold Settings.set
  cases hname : SettingKey.ofName? (Text.trim name) with
  | some key =>
    have hknown : Text.trim name ∈ knownNames := mem_knownNames_iff.2 ⟨key, hname⟩
    constructor
    · intro h
      cases h
    · rintro ⟨hunknown⟩
      exact absurd hknown hunknown
  | none =>
    constructor
    · intro h
      obtain rfl := Except.error.inj h
      exact .set (ofName?_eq_none_iff.1 hname)
    · rintro ⟨-⟩
      rfl

/-- An argument is refused if it has no parts, or if setting them is. -/
theorem assign_eq_error_iff {s : Settings} {input : String} {error : SettingsError} :
    s.assign input = .error error ↔ Refused (.assign input) error := by
  unfold Settings.assign
  cases hcut : Text.cut? '=' input with
  | none =>
    have hmissing := Text.cut?_eq_none_iff.1 hcut
    constructor
    · intro h
      obtain rfl := Except.error.inj h
      exact .malformed hmissing
    · intro h
      cases h with
      | malformed _ => rfl
      | assign hinput _ _ => simp [hinput] at hmissing
  | some parts =>
    obtain ⟨hinput, hbefore⟩ := Text.cut?_equals_eq_some_iff.1 hcut
    refine Iff.trans set_eq_error_iff ⟨.assign hinput hbefore, fun h => ?_⟩
    cases h with
    | malformed hmissing => simp [hinput] at hmissing
    | assign hinput' hbefore' hset =>
      -- a text has one first equals sign, so its parts are these
      have hcut' := Text.cut?_equals_eq_some_iff.2 ⟨hinput', hbefore'⟩
      rw [hcut] at hcut'
      obtain rfl := Option.some.inj hcut'
      exact hset

/-- Whether an edit is refused, and why, does not depend on the profile. -/
theorem apply_eq_error_iff {edit : Edit} {s : Settings} {error : SettingsError} :
    edit.apply s = .error error ↔ edit.Refused error := by
  cases edit with
  | set name value =>
    rw [apply_set]
    exact set_eq_error_iff
  | assign input =>
    rw [apply_assign]
    exact assign_eq_error_iff
  | overlay edits =>
    rw [apply_overlay]
    constructor
    · intro h
      cases h
    · intro h
      cases h

end Edit

/-! ## Runs -/

theorem run_cons (edit : Edit) (rest : List Edit) (s : Settings) :
    run (edit :: rest) s = run rest (edit.next s) := by
  rw [run, Edit.next]
  cases edit.apply s <;> rfl

theorem run_append (earlier later : List Edit) (s : Settings) :
    run (earlier ++ later) s = run later (run earlier s) := by
  induction earlier generalizing s with
  | nil => rfl
  | cons edit rest ih => rw [List.cons_append, run_cons, run_cons, ih]

/-- After a run a key has the value that the last edit gave to it, or else the value that it had. -/
theorem value?_run (edits : List Edit) (s : Settings) (key : SettingKey) :
    (run edits s).value? key =
      (edits.reverse.findSome? fun edit => edit.given? key).or (s.value? key) := by
  induction edits generalizing s with
  | nil => rfl
  | cons edit rest ih =>
    rw [run_cons, ih, Edit.value?_next, List.reverse_cons, List.findSome?_append, Option.or_assoc,
      List.findSome?_singleton]

mutual

/-- No edit gives a value with blanks around it. -/
theorem Edit.trimmed_of_given? : ∀ (edit : Edit) {key : SettingKey} {value : String},
    edit.given? key = some value → Text.Trimmed value
  | .set name value, key, v, h => by
    unfold Edit.given? at h
    obtain ⟨-, rfl⟩ := written?_eq_some_iff.1 (Edit.given_write_iff.1 h)
    exact Text.trimmed_trim value
  | .assign input, key, v, h => by
    unfold Edit.given? at h
    obtain ⟨parts, -, hwritten⟩ := Option.bind_eq_some_iff.1 (Edit.given_write_iff.1 h)
    obtain ⟨-, rfl⟩ := written?_eq_some_iff.1 hwritten
    exact Text.trimmed_trim parts.2
  -- what is laid over was run from the empty profile, which stores nothing
  | .overlay edits, key, v, h => trimmed_run edits trimmed_empty key v h

/-- A run keeps a profile trimmed, since each of its edits does. -/
theorem trimmed_run : ∀ (edits : List Edit) {s : Settings}, s.Trimmed → (run edits s).Trimmed
  | [], s, hs => hs
  | edit :: rest, s, hs => by
    have hnext : (edit.next s).Trimmed := by
      intro key value h
      rw [Edit.value?_next, Option.or_eq_some_iff] at h
      rcases h with hgiven | ⟨-, hvalue⟩
      · exact Edit.trimmed_of_given? edit hgiven
      · exact hs key value hvalue
    rw [run_cons]
    exact trimmed_run rest hnext

end

/-- The last write under a name counts. -/
theorem stored?_run_eq_some_iff {edits : List Edit} {name value : String} :
    (run edits empty).stored? name = some value ↔ ∃ earlier edit later,
      edits = earlier ++ edit :: later ∧ edit.Writes name value ∧
        ∀ edit' ∈ later, ∀ value', ¬ edit'.Writes name value' := by
  have hvalue (key : SettingKey) : (run edits empty).value? key =
      edits.reverse.findSome? fun edit => edit.given? key :=
    (value?_run edits empty key).trans (Option.or_none)
  rw [stored?_eq_some_iff]
  -- the search starts at the end of the run, so it passes the later edits before it finds one
  simp only [hvalue, List.findSome?_eq_some_iff, Edit.writes_iff]
  constructor
  · rintro ⟨key, hkey, later, edit, earlier, hedits, hgiven, hlater⟩
    refine ⟨earlier.reverse, edit, later.reverse, ?_, ⟨key, hkey, hgiven⟩, ?_⟩
    · rw [← List.reverse_reverse edits, hedits]
      simp
    · rintro edit' hedit' value' ⟨key', hkey', hgiven'⟩
      obtain rfl : key = key' := Option.some.inj (hkey.symm.trans hkey')
      rw [hlater edit' (List.mem_reverse.1 hedit')] at hgiven'
      cases hgiven'
  · rintro ⟨earlier, edit, later, rfl, ⟨key, hkey, hgiven⟩, hlater⟩
    refine ⟨key, hkey, later.reverse, edit, earlier.reverse, by simp, hgiven, ?_⟩
    intro edit' hedit'
    rw [Option.eq_none_iff_forall_ne_some]
    intro value' hgiven'
    exact hlater edit' (List.mem_reverse.1 hedit') value' ⟨key, hkey, hgiven'⟩

/-- A refused edit might as well not have been made. -/
theorem run_of_refused {earlier later : List Edit} {edit : Edit} {error : SettingsError}
    (h : edit.Refused error) (s : Settings) :
    run (earlier ++ edit :: later) s = run (earlier ++ later) s := by
  have hnext : edit.next (run earlier s) = run earlier s := by
    unfold Edit.next
    rw [Edit.apply_eq_error_iff.2 h]
  rw [run_append, run_cons, hnext, run_append]

/-- A run stores values under known names only, without blanks around them, and under each name the
value that was written last. The next edit fails if it is an argument without an equals sign or if
its name is unknown, and then the run goes on as if this edit had not been made. -/
theorem run_stores_last_writes (edits : List Edit) :
    (∀ name value, (run edits empty).stored? name = some value →
      name ∈ knownNames ∧ Text.Trimmed value) ∧
    (∀ name value, (run edits empty).stored? name = some value ↔ ∃ earlier edit later,
      edits = earlier ++ edit :: later ∧ edit.Writes name value ∧
        ∀ edit' ∈ later, ∀ value', ¬ edit'.Writes name value') ∧
    (∀ (edit : Edit) error, edit.apply (run edits empty) = .error error ↔ edit.Refused error) ∧
    (∀ (edit : Edit) error, edit.Refused error → ∀ later,
      run (edits ++ edit :: later) empty = run (edits ++ later) empty) := by
  refine ⟨fun name value h => ?_, fun _ _ => stored?_run_eq_some_iff,
    fun _ _ => Edit.apply_eq_error_iff, fun edit error h later => run_of_refused h empty⟩
  obtain ⟨key, hkey, hvalue⟩ := stored?_eq_some_iff.1 h
  exact ⟨mem_knownNames_iff.2 ⟨key, hkey⟩, trimmed_run edits trimmed_empty key value hvalue⟩

/-- An overlay writes over a failed assignment, and its value is trimmed. -/
example :
    let edits : List Edit :=
      [.set "compiler" "gcc", .assign "compiler", .overlay [.assign " compiler = clang"]]
    (run edits empty).stored? "compiler" = some "clang" := by
  rfl

end Settings

end RecipeResolver
