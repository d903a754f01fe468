import RecipeResolver.Text.Blank
import RecipeResolver.Text.Cut

/-!
# Feature flags

A recipe declares boolean options. A `FlagSet` holds each declared flag at its current value;
`FlagSet.set` changes one, and `parseAssignment` reads the argument `name=value` that asks for it.
-/

namespace RecipeResolver

/-- A flag as a recipe declares it. -/
structure FlagDeclaration where
  name : String
  byDefault : Bool
  description : String
  deriving DecidableEq, Repr

/-- A declared flag at its current value. -/
structure Flag where
  name : String
  value : Bool
  byDefault : Bool
  deriving DecidableEq, Repr

/-- Whether some flag of this name is on; a name that no flag has is off. -/
def isEnabled (flags : List Flag) (name : String) : Bool :=
  flags.any fun flag => flag.name == name && flag.value

/-- Whether some flag has this name. -/
def isDeclared (flags : List Flag) (name : String) : Bool :=
  flags.any fun flag => flag.name == name

/-- The flags with the first flag of a name at a new value. -/
def assignFirst (name : String) (value : Bool) : List Flag → List Flag
  | [] => []
  | flag :: rest =>
    if flag.name = name then { flag with value } :: rest
    else flag :: assignFirst name value rest

/-! ## Flags one by one -/

@[simp]
theorem isEnabled_nil (name : String) : isEnabled [] name = false := rfl

@[simp]
theorem isEnabled_cons (flag : Flag) (rest : List Flag) (name : String) :
    isEnabled (flag :: rest) name = (flag.name == name && flag.value || isEnabled rest name) := rfl

@[simp]
theorem isDeclared_nil (name : String) : isDeclared [] name = false := rfl

@[simp]
theorem isDeclared_cons (flag : Flag) (rest : List Flag) (name : String) :
    isDeclared (flag :: rest) name = (flag.name == name || isDeclared rest name) := rfl

/-- A flag that is on is declared. -/
theorem isDeclared_of_isEnabled {flags : List Flag} {name : String}
    (h : isEnabled flags name = true) : isDeclared flags name = true := by
  unfold isEnabled at h
  rw [List.any_eq_true] at h
  obtain ⟨flag, hmem, hflag⟩ := h
  rw [Bool.and_eq_true] at hflag
  unfold isDeclared
  rw [List.any_eq_true]
  exact ⟨flag, hmem, hflag.1⟩

/-- Why an option is refused. -/
inductive FlagError where
  /-- The revision does not declare the option; `known` are those that it declares. -/
  | unknown (name revision : String) (known : List String)
  | invalidValue (name value : String)
  /-- An argument without an equals sign or without a name. -/
  | malformed (input : String)
  deriving DecidableEq, Repr

namespace FlagError

/-- The error in one line. -/
def message : FlagError → String
  | .unknown name revision _ => s!"unknown option `{name}` for recipe revision {revision}"
  | .invalidValue name value => s!"invalid value `{value}` for option `{name}`"
  | .malformed input => s!"malformed option `{input}`, expected `name=value`"

end FlagError

/-- The flags of a revision before the implications between them are applied. -/
structure FlagSet where
  /-- The revision's name, for messages. -/
  revision : String
  flags : List Flag
  deriving DecidableEq, Repr

namespace FlagSet

/-- Every declared flag at its default. -/
def ofDeclarations (revision : String) (declarations : List FlagDeclaration) : FlagSet where
  revision
  flags := declarations.map fun d =>
    { name := d.name, value := d.byDefault, byDefault := d.byDefault }

/-- Sets the first flag of a name; a name that is not declared is refused. -/
def set (s : FlagSet) (name : String) (value : Bool) : Except FlagError FlagSet :=
  if isDeclared s.flags name then
    .ok { s with flags := assignFirst name value s.flags }
  else
    .error (.unknown name s.revision (s.flags.map Flag.name))

end FlagSet

/-! ## Arguments -/

/-- The spellings of the two values. -/
def truthValue? (s : String) : Option Bool :=
  if s ∈ ["True", "true", "ON", "on", "1", "yes"] then some true
  else if s ∈ ["False", "false", "OFF", "off", "0", "no"] then some false
  else none

/-- The value of an option, blanks around it aside; the name is for the message. -/
def parseTruth (name value : String) : Except FlagError Bool :=
  match truthValue? (Text.trim value) with
  | some b => .ok b
  | none => .error (.invalidValue name (Text.trim value))

/-- Reads an argument `name=value`. -/
def parseAssignment (input : String) : Except FlagError (String × Bool) :=
  match Text.cut? '=' input with
  | none => .error (.malformed input)
  | some (name, value) =>
    if Text.trim name = "" then .error (.malformed input)
    else
      match parseTruth (Text.trim name) value with
      | .ok b => .ok (Text.trim name, b)
      | .error e => .error e

end RecipeResolver
