import RecipeResolver.Text.Cut

/-!
# Packages

How packages are named: by a name alone, or by a reference `name/version`.
-/

namespace RecipeResolver

/-- The name of the library that the shipped recipes build. -/
def libraryName : String := "octo-logger-cpp"

/-- A package at a version. -/
structure PackageRef where
  name : String
  version : String
  deriving DecidableEq, Repr

namespace PackageRef

/-- The written form `name/version`. -/
def text (r : PackageRef) : String :=
  s!"{r.name}/{r.version}"

/-- The reference that a text spells. The name ends at the first slash; neither part is empty. -/
def parse? (s : String) : Option PackageRef :=
  match Text.cut? '/' s with
  | some (name, version) => if name = "" ∨ version = "" then none else some { name, version }
  | none => none

/-- Why a text is no reference. -/
def refusal (s : String) : String :=
  s!"invalid package reference '{s}', expected name/version"

end PackageRef

end RecipeResolver
