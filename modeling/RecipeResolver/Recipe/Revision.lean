import RecipeResolver.Text.Blank
import RecipeResolver.Text.LowerCase

/-!
# Revisions

The recipe has gone through three revisions, which differ in their options and requirements.
-/

namespace RecipeResolver

/-- A revision of the recipe, oldest first. -/
inductive Revision where
  | v1
  | v2
  | v3
  deriving DecidableEq, Repr

namespace Revision

/-- Every revision, oldest first. -/
def all : List Revision := [.v1, .v2, .v3]

/-- The revision that is used when none is asked for. -/
def latest : Revision := .v3

instance : Inhabited Revision := ⟨latest⟩

/-- The name of a revision. -/
def name : Revision → String
  | .v1 => "v1"
  | .v2 => "v2"
  | .v3 => "v3"

/-- Every spelling of a revision. -/
def spellings : Revision → List String
  | .v1 => ["v1", "1"]
  | .v2 => ["v2", "2"]
  | .v3 => ["v3", "3", "latest"]

/-- A text as revisions are compared: trimmed and in lower case. -/
def normalForm (s : String) : String :=
  Text.lowerCase (Text.trim s)

/-- The revision of a spelling in any case. -/
def parse? (s : String) : Option Revision :=
  all.find? fun r => r.spellings.contains (normalForm s)

/-- Why a text is no revision. -/
def refusal (s : String) : String :=
  s!"invalid revision '{normalForm s}'; expected 'v1', 'v2', 'v3' or 'latest'"

end Revision

end RecipeResolver
