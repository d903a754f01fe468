import RecipeResolver.Profile.Settings
import RecipeResolver.Proofs.Report.Outcome

/-!
# The last write counts

A profile is written one key at a time, by the entries of a configuration and by the arguments of a
command line. These are read in different ways, but each step that succeeds writes the one key that
its item names. `Settings.foldlM_eq_ok_iff` says what such steps come to: a key has the last value
that was given to it, and a key that no item names keeps the value that it had.
-/

namespace RecipeResolver

/-! ## The last value -/

section LastValue

variable {α κ ν : Type} [DecidableEq κ]

/-- The value that the last of these items gives to a key. `read?` tells which key an item is about
and what it gives to it. -/
def lastValue? (read? : α → Option (κ × ν)) (key : κ) (items : List α) : Option ν :=
  items.reverse.findSome? fun a => (read? a).bind fun e => if e.1 = key then some e.2 else none

variable (read? : α → Option (κ × ν)) (key : κ)

/-- Later items come before earlier ones. -/
theorem lastValue?_append (items later : List α) :
    lastValue? read? key (items ++ later) =
      (lastValue? read? key later).or (lastValue? read? key items) := by
  unfold lastValue?
  rw [List.reverse_append, List.findSome?_append]

theorem lastValue?_cons (a : α) (rest : List α) :
    lastValue? read? key (a :: rest) = (lastValue? read? key rest).or
      ((read? a).bind fun e => if e.1 = key then some e.2 else none) := by
  rw [← List.singleton_append, lastValue?_append]
  refine congrArg (Option.or _) ?_
  unfold lastValue?
  rw [List.reverse_singleton, List.findSome?_singleton]

/-- The last value depends on the items only by what they are read as. -/
theorem lastValue?_congr {β : Type} {read? : α → Option (κ × ν)} {read?' : β → Option (κ × ν)}
    {items : List α} {items' : List β} (h : items.map read? = items'.map read?') :
    lastValue? read? key items = lastValue? read?' key items' := by
  have hmap {γ : Type} (r : γ → Option (κ × ν)) (l : List γ) : lastValue? r key l =
      (l.map r).reverse.findSome? fun o =>
        o.bind fun e => if e.1 = key then some e.2 else none := by
    rw [← List.map_reverse, List.findSome?_map]
    rfl
  rw [hmap, hmap, h]

variable {read? key}

/-- A key gets no value if no item is about it. -/
theorem lastValue?_eq_none_iff {items : List α} :
    lastValue? read? key items = none ↔ ∀ a ∈ items, ∀ v, read? a ≠ some (key, v) := by
  unfold lastValue?
  rw [List.findSome?_eq_none_iff]
  constructor
  · intro h a ha v hv
    have := h a (List.mem_reverse.2 ha)
    rw [hv, Option.bind_some, if_pos rfl] at this
    cases this
  · intro h a ha
    rw [Option.bind_eq_none_iff]
    rintro ⟨k, v⟩ he
    refine if_neg ?_
    rintro rfl
    exact h a (List.mem_reverse.1 ha) v he

end LastValue

/-! ## What is written -/

namespace SettingKey

/-- Every key is known by its name. -/
theorem ofName?_eq_some_iff {s : String} {key : SettingKey} :
    ofName? s = some key ↔ s = key.name := by
  constructor
  · intro h
    have hname := List.find?_some h
    exact (beq_iff_eq.1 hname).symm
  · rintro rfl
    cases key <;> rfl

end SettingKey

namespace Settings

/-- The key that a name means and the value that a text stands for, both without the blanks around
them. -/
def written? (name value : String) : Option (SettingKey × String) :=
  (SettingKey.ofName? (Text.trim name)).map fun key => (key, Text.trim value)

/-- The key and the value of an argument `key=value`. -/
def argument? (input : String) : Option (SettingKey × String) :=
  (Text.cut? '=' input).bind fun parts => written? parts.1 parts.2

theorem written?_eq_some_iff {name value : String} {key : SettingKey} {v : String} :
    written? name value = some (key, v) ↔ Text.trim name = key.name ∧ Text.trim value = v := by
  unfold written?
  rw [Option.map_eq_some_iff]
  constructor
  · rintro ⟨k, hk, hkv⟩
    rw [Prod.mk.injEq] at hkv
    obtain ⟨rfl, rfl⟩ := hkv
    exact ⟨SettingKey.ofName?_eq_some_iff.1 hk, rfl⟩
  · rintro ⟨hname, rfl⟩
    exact ⟨key, SettingKey.ofName?_eq_some_iff.2 hname, rfl⟩

/-- Setting a key by its name is one write. -/
theorem set_eq_ok_iff {s s' : Settings} {name value : String} :
    s.set name value = .ok s' ↔ ∃ e, written? name value = some e ∧ s' = s.insert e.1 e.2 := by
  unfold set written?
  cases SettingKey.ofName? (Text.trim name) with
  | none => simp
  | some key => simp [eq_comm]

/-- Setting a key by an argument is one write. -/
theorem assign_eq_ok_iff {s s' : Settings} {input : String} :
    s.assign input = .ok s' ↔ ∃ e, argument? input = some e ∧ s' = s.insert e.1 e.2 := by
  unfold assign argument?
  cases Text.cut? '=' input with
  | none => simp
  | some parts => exact set_eq_ok_iff

/-- A key is written, and any other one keeps what it had. -/
theorem value?_insert_eq_or (s : Settings) (e : SettingKey × String) (key : SettingKey) :
    (s.insert e.1 e.2).value? key = (if e.1 = key then some e.2 else none).or (s.value? key) := by
  rw [value?_insert]
  by_cases hkey : key = e.1
  · rw [if_pos hkey, if_pos hkey.symm, Option.some_or]
  · rw [if_neg hkey, if_neg (Ne.symm hkey), Option.none_or]

/-! ## Writes in turn -/

/-- Steps that write one key each, or fail, succeed if every item names a key. Afterwards each key
has the last value that was given to it, or else the value that it had. -/
theorem foldlM_eq_ok_iff {α ε : Type} {step : Settings → α → Except ε Settings}
    {read? : α → Option (SettingKey × String)}
    (hstep : ∀ s a s', step s a = .ok s' ↔ ∃ e, read? a = some e ∧ s' = s.insert e.1 e.2)
    {items : List α} {s s' : Settings} :
    items.foldlM step s = .ok s' ↔ (∀ a ∈ items, ∃ e, read? a = some e) ∧
      ∀ key, s'.value? key = (lastValue? read? key items).or (s.value? key) := by
  induction items generalizing s with
  | nil =>
    show Except.ok s = .ok s' ↔ _
    rw [Except.ok.injEq]
    constructor
    · rintro rfl
      exact ⟨fun a ha => (List.not_mem_nil ha).elim, fun key => rfl⟩
    · rintro ⟨-, hvalue⟩
      exact Settings.ext fun key => (hvalue key).symm
  | cons a rest ih =>
    -- the first item writes its key, which a later one may write again
    have hfirst {e : SettingKey × String} (he : read? a = some e) (key : SettingKey) :
        (lastValue? read? key rest).or ((s.insert e.1 e.2).value? key) =
          (lastValue? read? key (a :: rest)).or (s.value? key) := by
      rw [lastValue?_cons, he, Option.or_assoc, Option.bind_some, value?_insert_eq_or]
    rw [List.foldlM_cons, List.forall_mem_cons]
    show (step s a).bind _ = _ ↔ _
    rw [bind_eq_ok_iff]
    constructor
    · rintro ⟨s₁, hs₁, hrest⟩
      obtain ⟨e, he, rfl⟩ := (hstep s a s₁).1 hs₁
      obtain ⟨hitems, hvalue⟩ := ih.1 hrest
      exact ⟨⟨⟨e, he⟩, hitems⟩, fun key => (hvalue key).trans (hfirst he key)⟩
    · rintro ⟨⟨⟨e, he⟩, hitems⟩, hvalue⟩
      refine ⟨s.insert e.1 e.2, (hstep s a _).2 ⟨e, he, rfl⟩, ih.2 ⟨hitems, fun key => ?_⟩⟩
      exact (hvalue key).trans (hfirst he key).symm

/-- What arguments in turn come to. -/
theorem foldlM_assign_eq_ok_iff {inputs : List String} {s s' : Settings} :
    inputs.foldlM assign s = .ok s' ↔ (∀ input ∈ inputs, ∃ e, argument? input = some e) ∧
      ∀ key, s'.value? key = (lastValue? argument? key inputs).or (s.value? key) := by
  have hstep (s : Settings) (input : String) (s' : Settings) :
      assign s input = .ok s' ↔ ∃ e, argument? input = some e ∧ s' = s.insert e.1 e.2 :=
    assign_eq_ok_iff
  exact foldlM_eq_ok_iff hstep

end Settings

end RecipeResolver
