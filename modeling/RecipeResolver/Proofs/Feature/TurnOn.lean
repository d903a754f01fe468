import RecipeResolver.Feature.Flag

/-!
# Turning flags on by name

`turnOn names flags` is what a run of the implications makes of the flags: the first flag of each
name in `names` is on, and nothing else has changed. Assigning one more flag and going through a
second run both stay of this form, so a proof about many assignments needs only the list of names.

`getElem?_turnOn` says what stands at each place, and `isEnabled_turnOn` which names are on.
-/

namespace RecipeResolver

/-- The flags with the first flag of each of these names on. -/
def turnOn (names : List String) : List Flag → List Flag
  | [] => []
  | flag :: rest =>
    { flag with value := flag.value || names.contains flag.name } ::
      turnOn (names.filter (· != flag.name)) rest

/-- Only the names count, not their order or how often they are listed. -/
theorem turnOn_congr {a b : List String} (h : ∀ name, name ∈ a ↔ name ∈ b) (flags : List Flag) :
    turnOn a flags = turnOn b flags := by
  induction flags generalizing a b with
  | nil => rfl
  | cons flag rest ih =>
    have hhead : a.contains flag.name = b.contains flag.name := by
      rw [Bool.eq_iff_iff, List.contains_iff_mem, List.contains_iff_mem, h]
    have hrest : ∀ name, name ∈ a.filter (· != flag.name) ↔ name ∈ b.filter (· != flag.name) := by
      intro name
      rw [List.mem_filter, List.mem_filter, h]
    rw [turnOn, turnOn, hhead, ih hrest]

@[simp] theorem turnOn_nil (flags : List Flag) : turnOn [] flags = flags := by
  induction flags with
  | nil => rfl
  | cons flag rest ih => simp [turnOn, ih]

/-- A second run on the outcome of a first one. -/
theorem turnOn_turnOn (a b : List String) (flags : List Flag) :
    turnOn a (turnOn b flags) = turnOn (a ++ b) flags := by
  induction flags generalizing a b with
  | nil => rfl
  | cons flag rest ih =>
    rw [turnOn, turnOn, turnOn, ih, List.filter_append]
    congr 2
    simp only [List.contains_append]
    rw [Bool.or_assoc, Bool.or_comm (b.contains flag.name)]

/-- Switching on the first flag of a name is a run with this name alone. -/
theorem assignFirst_true (name : String) (flags : List Flag) :
    assignFirst name true flags = turnOn [name] flags := by
  induction flags with
  | nil => rfl
  | cons flag rest ih =>
    by_cases h : flag.name = name
    · simp [assignFirst, turnOn, h]
    · have hne : name ≠ flag.name := fun e => h e.symm
      simp [assignFirst, turnOn, h, hne, ih]

/-! ## What stands where -/

/-- At each place stands the flag that stood there; it is turned on if it is the first of one of the
names. -/
theorem getElem?_turnOn (names : List String) (flags : List Flag) (i : Nat) :
    (turnOn names flags)[i]? = flags[i]?.map fun flag =>
      { flag with
        value := flag.value ||
          names.contains flag.name && !isDeclared (flags.take i) flag.name } := by
  induction flags generalizing names i with
  | nil => rfl
  | cons flag rest ih =>
    cases i with
    | zero => simp [turnOn]
    | succ i =>
      rw [turnOn, List.getElem?_cons_succ, List.getElem?_cons_succ, ih]
      -- a later flag of the same name as the head is left alone: the head was the first one
      refine congrArg (rest[i]?.map ·) (funext fun later => ?_)
      by_cases h : flag.name = later.name
      · simp [h]
      · have hbeq : (flag.name == later.name) = false := beq_false_of_ne h
        have hne : later.name ≠ flag.name := fun e => h e.symm
        simp [hbeq, hne]

@[simp] theorem length_turnOn (names : List String) (flags : List Flag) :
    (turnOn names flags).length = flags.length := by
  induction flags generalizing names with
  | nil => rfl
  | cons flag rest ih => rw [turnOn, List.length_cons, ih, List.length_cons]

@[simp] theorem isDeclared_turnOn (names : List String) (flags : List Flag) (name : String) :
    isDeclared (turnOn names flags) name = isDeclared flags name := by
  induction flags generalizing names with
  | nil => rfl
  | cons flag rest ih => rw [turnOn, isDeclared_cons, ih, isDeclared_cons]

/-- After a run those names are on that were on, and those that were turned on and are declared. -/
theorem isEnabled_turnOn (names : List String) (flags : List Flag) (name : String) :
    isEnabled (turnOn names flags) name =
      (isEnabled flags name || names.contains name && isDeclared flags name) := by
  induction flags generalizing names with
  | nil => simp [turnOn]
  | cons flag rest ih =>
    rw [turnOn, isEnabled_cons, ih, isEnabled_cons, isDeclared_cons]
    by_cases h : flag.name = name
    · subst h
      cases flag.value <;> simp [Bool.or_comm]
    · have hbeq : (flag.name == name) = false := beq_false_of_ne h
      have hne : name ≠ flag.name := fun e => h e.symm
      simp [hbeq, hne]

end RecipeResolver
