import RecipeResolver.Recipe.Request

/-!
# Overrides of a pass

Between its start and its normalization a pass is only ever assigned to. `OpenPass.assigned` is the
pass after a list of assignments, whoever made them. A default extends the list and never fails; an
option extends the list if its name is declared, and is refused otherwise.
-/

namespace RecipeResolver

/-! ## Assignments to flags -/

/-- The flags after these assignments in turn, each to the first flag of its name. -/
def assignEach (entries : List (String × Bool)) (flags : List Flag) : List Flag :=
  entries.foldl (fun flags entry => assignFirst entry.1 entry.2 flags) flags

theorem assignEach_concat (entries : List (String × Bool)) (name : String) (value : Bool)
    (flags : List Flag) : assignEach (entries ++ [(name, value)]) flags =
      assignFirst name value (assignEach entries flags) := by
  unfold assignEach
  rw [List.foldl_append, List.foldl_cons, List.foldl_nil]

/-- An assignment changes no name. -/
theorem map_name_assignFirst (name : String) (value : Bool) (flags : List Flag) :
    (assignFirst name value flags).map Flag.name = flags.map Flag.name := by
  induction flags with
  | nil => rfl
  | cons flag rest ih =>
    unfold assignFirst
    by_cases h : flag.name = name
    · rw [if_pos h]; rfl
    · rw [if_neg h, List.map_cons, ih, List.map_cons]

theorem map_name_assignEach (entries : List (String × Bool)) (flags : List Flag) :
    (assignEach entries flags).map Flag.name = flags.map Flag.name := by
  induction entries generalizing flags with
  | nil => rfl
  | cons entry rest ih =>
    show (assignEach rest (assignFirst entry.1 entry.2 flags)).map Flag.name = _
    rw [ih, map_name_assignFirst]

/-- An assignment to a name that no flag has does nothing. -/
theorem assignFirst_of_undeclared {name : String} {flags : List Flag}
    (h : isDeclared flags name = false) (value : Bool) : assignFirst name value flags = flags := by
  induction flags with
  | nil => rfl
  | cons flag rest ih =>
    rw [isDeclared_cons, Bool.or_eq_false_iff, beq_eq_false_iff_ne] at h
    rw [assignFirst, if_neg h.1, ih h.2]

/-- Whether a name is declared can be read off the names. -/
theorem isDeclared_eq_contains (flags : List Flag) (name : String) :
    isDeclared flags name = (flags.map Flag.name).contains name := by
  induction flags with
  | nil => rfl
  | cons flag rest ih =>
    rw [isDeclared_cons, ih, List.map_cons, List.contains_cons, Bool.beq_comm]

/-! ## Passes after assignments -/

/-- A pass after these assignments to the defaults of its schema. -/
def OpenPass.assigned (schema : Schema) (identity : Identity) (entries : List (String × Bool)) :
    OpenPass where
  schema
  identity
  flags := { schema.defaultFlags with flags := assignEach entries schema.defaultFlags.flags }

/-- How a schema refuses an option that it does not declare. -/
def Schema.refusal (schema : Schema) (name : String) : FlagError :=
  .unknown name schema.revision.name (schema.features.map (·.name))

namespace OpenPass

variable (schema : Schema) (identity : Identity) (entries : List (String × Bool))

theorem map_name_assigned :
    (assigned schema identity entries).flags.flags.map Flag.name =
      schema.features.map (·.name) := by
  show (assignEach entries schema.defaultFlags.flags).map Flag.name = _
  rw [map_name_assignEach]
  show (schema.features.map _).map Flag.name = _
  rw [List.map_map]
  rfl

/-- Assignments leave it to the schema which flags are declared. -/
theorem isDeclared_assigned (name : String) :
    isDeclared (assigned schema identity entries).flags.flags name = schema.declares name := by
  rw [isDeclared_eq_contains, map_name_assigned, Bool.eq_iff_iff, List.contains_iff_mem,
    List.mem_map]
  unfold Schema.declares Schema.feature?
  rw [List.find?_isSome]
  simp only [beq_iff_eq]

/-- Setting a flag that is declared adds an assignment. -/
theorem set_assigned_of_declares {name : String} (h : schema.declares name = true) (value : Bool) :
    (assigned schema identity entries).set name value =
      .ok (assigned schema identity (entries ++ [(name, value)])) := by
  unfold OpenPass.set FlagSet.set
  rw [isDeclared_assigned, h]
  unfold assigned
  rw [assignEach_concat]
  rfl

/-- Setting a flag that is not declared is refused. -/
theorem set_assigned_of_not_declares {name : String} (h : schema.declares name = false)
    (value : Bool) :
    (assigned schema identity entries).set name value = .error (schema.refusal name) := by
  unfold OpenPass.set FlagSet.set
  rw [isDeclared_assigned, h, map_name_assigned]
  rfl

/-- An assignment to a name that is not declared can be left out. -/
theorem assigned_concat_of_not_declares {name : String} (h : schema.declares name = false)
    (value : Bool) : assigned schema identity (entries ++ [(name, value)]) =
      assigned schema identity entries := by
  have hd : isDeclared (assignEach entries schema.defaultFlags.flags) name = false :=
    (isDeclared_assigned schema identity entries name).trans h
  unfold assigned
  rw [assignEach_concat, assignFirst_of_undeclared hd value]

end OpenPass

namespace Request

@[simp] theorem result_orFail {ε α : Type} (cause : ε → Cause) (x : Except ε α) :
    (orFail cause x).result = x.mapError fun e => .of (cause e) := rfl

variable (schema : Schema) (identity : Identity)

/-- One default never fails. -/
theorem result_applyDefault (entries : List (String × Bool)) (entry : String × Bool) :
    (applyDefault (.assigned schema identity entries) entry).result =
      .ok (.assigned schema identity (entries ++ [entry])) := by
  unfold applyDefault
  show Logged.result (if schema.declares entry.1 then _ else _) = _
  by_cases h : schema.declares entry.1 = true
  · rw [if_pos h, result_orFail, OpenPass.set_assigned_of_declares schema identity entries h]
    rfl
  · rw [if_neg h, Logged.result_bind, Logged.result_say]
    rw [Bool.not_eq_true] at h
    rw [OpenPass.assigned_concat_of_not_declares schema identity entries h]
    rfl

/-- The defaults never fail. -/
theorem result_applyDefaults (defaults entries : List (String × Bool)) :
    (defaults.foldlM applyDefault (.assigned schema identity entries)).result =
      .ok (.assigned schema identity (entries ++ defaults)) := by
  rw [Logged.result_foldlM]
  induction defaults generalizing entries with
  | nil => rw [List.append_nil]; rfl
  | cons entry rest ih =>
    rw [List.foldlM_cons, result_applyDefault]
    show rest.foldlM _ _ = _
    rw [ih, List.append_assoc, List.singleton_append]

/-- One option fails if it is not declared. -/
theorem result_applyOption (entries : List (String × Bool)) (entry : String × Bool) :
    (applyOption (.assigned schema identity entries) entry).result =
      if schema.declares entry.1 then .ok (.assigned schema identity (entries ++ [entry]))
      else .error (.of (.option (schema.refusal entry.1))) := by
  unfold applyOption
  rw [result_orFail]
  by_cases h : schema.declares entry.1 = true
  · rw [if_pos h, OpenPass.set_assigned_of_declares schema identity entries h]
    rfl
  · rw [if_neg h]
    rw [Bool.not_eq_true] at h
    rw [OpenPass.set_assigned_of_not_declares schema identity entries h]
    rfl

/-- The options fail with the first one that is not declared. -/
theorem result_applyOptions (options entries : List (String × Bool)) :
    (options.foldlM applyOption (.assigned schema identity entries)).result =
      match (options.map Prod.fst).find? fun name => !schema.declares name with
      | some name => .error (.of (.option (schema.refusal name)))
      | none => .ok (.assigned schema identity (entries ++ options)) := by
  rw [Logged.result_foldlM]
  induction options generalizing entries with
  | nil => rw [List.append_nil]; rfl
  | cons entry rest ih =>
    rw [List.foldlM_cons, result_applyOption, List.map_cons]
    by_cases h : schema.declares entry.1 = true
    · have hrest := ih (entries ++ [entry])
      rw [List.append_assoc, List.singleton_append] at hrest
      rw [if_pos h, List.find?_cons_of_neg (by simp [h])]
      exact hrest
    · rw [if_neg h, List.find?_cons_of_pos (by simp [h])]
      rfl

end Request

end RecipeResolver
