import RecipeResolver.Feature.Closure
import RecipeResolver.Recipe.Package

/-!
# Conditional declarations

What a recipe declares may depend on a flag: the packages it requires, the options it forces on
them, and the texts it exports. Each declaration has a condition, and `selected` keeps those whose
condition holds.
-/

namespace RecipeResolver

/-- When a declaration applies. -/
inductive Condition where
  | always
  /-- When the flag of this name is on. -/
  | feature (name : String)
  deriving DecidableEq, Repr

namespace Condition

/-- Whether the condition holds under these flags. -/
def holds (c : Condition) (flags : NormalizedFlags) : Bool :=
  match c with
  | .always => true
  | .feature name => flags.isEnabled name

end Condition

/-- A declaration and when it applies. -/
structure Conditional (α : Type) where
  value : α
  condition : Condition := .always
  deriving DecidableEq, Repr

namespace Conditional

variable {α : Type}

/-- A declaration that always applies. -/
def always (value : α) : Conditional α := ⟨value, .always⟩

/-- A declaration that applies when a flag is on. -/
def whenOn (name : String) (value : α) : Conditional α := ⟨value, .feature name⟩

end Conditional

/-- The declarations whose condition holds, in order. -/
def selected {α : Type} (flags : NormalizedFlags) (declarations : List (Conditional α)) : List α :=
  (declarations.filter fun d => d.condition.holds flags).map Conditional.value

/-- An option that the build must set on a required package. -/
structure OptionOverride where
  package : String
  option : String
  value : Bool
  deriving DecidableEq, Repr

/-- The written form of a truth value in options. -/
def truthText (b : Bool) : String :=
  if b then "True" else "False"

namespace OptionOverride

/-- The written form `package:option=True`. -/
def text (o : OptionOverride) : String :=
  s!"{o.package}:{o.option}={truthText o.value}"

end OptionOverride

end RecipeResolver
