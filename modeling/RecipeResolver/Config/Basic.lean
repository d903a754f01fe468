import RecipeResolver.Interchange.Package
import RecipeResolver.Profile.Settings
import RecipeResolver.Report.Failure

/-!
# Configurations

A configuration gives defaults for what a command line leaves open: the revision, the policy for
unknown compilers, option values and a profile. Configurations are layered by `Config.merge`, in
which the later layer wins wherever it says anything.
-/

namespace RecipeResolver

/-- Defaults for resolutions. -/
structure Config where
  revision : Option Revision := none
  unknownCompiler : Option UnknownCompilerPolicy := none
  /-- Option values; those that a revision does not declare are passed over. -/
  options : OrderedMap String Bool := .empty
  /-- The profile as it is written; its keys are checked when it is used. -/
  settings : OrderedMap String String := .empty
  deriving DecidableEq

namespace Config

/-- The configuration that says nothing. -/
def empty : Config := {}

instance : Inhabited Config := ⟨empty⟩

/-- Overlays another configuration. -/
def merge (c other : Config) : Config where
  revision := other.revision.or c.revision
  unknownCompiler := other.unknownCompiler.or c.unknownCompiler
  options := c.options.merge other.options
  settings := c.settings.merge other.settings

/-- Sets one entry of a profile. -/
def applyEntry (settings : Settings) (entry : String × String) : Except Failure Settings :=
  match settings.set entry.1 entry.2 with
  | .ok settings => .ok settings
  | .error e => .error ⟨[.applyingSetting entry.1], .setting e⟩

/-- The profile, which fails at the first entry with an unknown key. -/
def profile (c : Config) : Except Failure Settings :=
  c.settings.entries.foldlM applyEntry .empty

/-! ## JSON -/

/-- An object with all fields. -/
def toJson (c : Config) : Json :=
  .object
    [("resolve", .object
      [("revision", .ofOption Revision.toJson c.revision),
        ("unknown-compiler", .ofOption UnknownCompilerPolicy.toJson c.unknownCompiler)]),
      ("options", .object (c.options.entries.map fun (name, value) => (name, .bool value))),
      ("settings", .ofTextMap c.settings)]

/-- The revision and the policy of a JSON value; either may be left out. -/
def choicesOfJson? (j : Json) : Option (Option Revision × Option UnknownCompilerPolicy) := do
  match ← j.fields? ["revision", "unknown-compiler"] 0 with
  | [revision, policy] =>
    return (← Json.optional? Revision.ofJson? revision,
      ← Json.optional? UnknownCompilerPolicy.ofJson? policy)
  | _ => none

/-- The configuration of a JSON value; every part may be left out. -/
def ofJson? (j : Json) : Option Config := do
  match ← j.fields? ["resolve", "options", "settings"] 0 with
  | [choices, options, settings] => do
    let (revision, unknownCompiler) ← Json.defaulted? choicesOfJson? (none, none) choices
    return {
      revision
      unknownCompiler
      options := ← Json.defaulted? (Json.map? some Json.bool?) .empty options
      settings := ← Json.defaulted? Json.textMap? .empty settings }
  | _ => none

end Config

end RecipeResolver
