import RecipeResolver.Profile.Compatibility
import RecipeResolver.Recipe.Identity
import RecipeResolver.Recipe.Requirement
import RecipeResolver.Recipe.Revision

/-!
# Schemas

A schema holds everything in which revisions differ. `Schema.check` tells whether its declarations
fit together, and names the first that does not.
-/

namespace RecipeResolver

/-- A variable of the build that is on when a flag is. -/
structure CacheVariable where
  name : String
  feature : String
  deriving DecidableEq, Repr

/-- Everything that a revision declares. -/
structure Schema where
  revision : Revision
  versionSource : VersionSource
  features : List FlagDeclaration := []
  implications : List Implication := []
  minimumVersions : MinimumVersions
  requirements : List (Conditional PackageRef) := []
  overrides : List (Conditional OptionOverride) := []
  /-- What the library's component links against. -/
  componentRequires : List (Conditional String) := []
  defines : List (Conditional String) := []
  cacheVariables : List CacheVariable := []

namespace Schema

/-- The flags at their defaults. -/
def defaultFlags (s : Schema) : FlagSet :=
  .ofDeclarations s.revision.name s.features

/-- The declaration of a flag. -/
def feature? (s : Schema) (name : String) : Option FlagDeclaration :=
  s.features.find? fun d => d.name == name

/-- Whether a flag is declared. -/
def declares (s : Schema) (name : String) : Bool :=
  (s.feature? name).isSome

/-! ## Consistency -/

/-- How the declarations of a schema fail to fit together. -/
inductive Flaw where
  | repeatedFeature (name : String)
  | repeatedRequirement (package : String)
  | undeclaredCondition (feature : String)
  | undeclaredImplication (rule : Implication)
  | undeclaredVariable (variableName feature : String)
  deriving DecidableEq, Repr

/-- The flaw of a revision in one line. -/
def Flaw.message (revision : Revision) : Flaw → String
  | .repeatedFeature name => s!"revision {revision.name} declares `{name}` twice"
  | .repeatedRequirement package => s!"revision {revision.name} requires `{package}` twice"
  | .undeclaredCondition feature =>
    s!"revision {revision.name} has a rule on undeclared option `{feature}`"
  | .undeclaredImplication rule =>
    s!"revision {revision.name} has an implication on undeclared options: {rule.text}"
  | .undeclaredVariable variableName feature =>
    s!"revision {revision.name} maps `{variableName}` to undeclared option `{feature}`"

/-- The first text that stands a second time, after the texts that were `seen`. -/
def firstRepeated? (seen : List String) : List String → Option String
  | [] => none
  | s :: rest => if seen.contains s then some s else firstRepeated? (s :: seen) rest

/-- The flags that conditions speak about: those of the requirements, of the overrides, of the
component and of the defines. -/
def conditionFeatures (s : Schema) : List String :=
  let conditions := s.requirements.map (·.condition) ++ s.overrides.map (·.condition) ++
    s.componentRequires.map (·.condition) ++ s.defines.map (·.condition)
  conditions.filterMap fun
    | .always => none
    | .feature name => some name

/-- The first flaw of a schema. -/
def flaw? (s : Schema) : Option Flaw :=
  ((firstRepeated? [] (s.features.map (·.name))).map .repeatedFeature).or <|
    ((firstRepeated? [] (s.requirements.map (·.value.name))).map .repeatedRequirement).or <|
      ((s.conditionFeatures.find? fun name => !s.declares name).map .undeclaredCondition).or <|
        ((s.implications.find? fun rule =>
            !(s.declares rule.trigger && s.declares rule.forced)).map .undeclaredImplication).or <|
          ((s.cacheVariables.find? fun v => !s.declares v.feature).map fun v =>
            .undeclaredVariable v.name v.feature)

/-- Checks that the declarations fit together. -/
def check (s : Schema) : Except String Unit :=
  match s.flaw? with
  | none => .ok ()
  | some flaw => .error (flaw.message s.revision)

/-- The identity of the package that the recipe in this folder builds. -/
def identify (s : Schema) (files : FileTree) (folder : String) : Except Failure Identity :=
  match s.versionSource.load files folder with
  | .ok version => .ok (.ofVersion version)
  | .error f => .error (f.within .findingVersion)

end Schema

end RecipeResolver
