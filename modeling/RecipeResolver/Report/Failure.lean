import RecipeResolver.Feature.Flag
import RecipeResolver.Files.Tree
import RecipeResolver.Profile.Compatibility
import RecipeResolver.Profile.Settings
import RecipeResolver.Report.Advice

/-!
# Failures

A failure is a cause with the circumstances in which it arose, the outermost one first. Its message
names all of them; a failure whose cause is a refused option, setting or toolchain is shown by the
diagnostic for that cause.
-/

namespace RecipeResolver

/-- What was being done. -/
inductive Circumstance where
  | readingVersion (path : String)
  | findingVersion
  | readingConfig (path : String)
  | parsingConfig (path : String)
  | makingConfigFolder (path : String)
  | writingConfig (path : String)
  | applyingSetting (key : String)
  | driving (package : String)
  | publishing (package : String)
  | writingPlan
  | writingMetadata
  | creating (path : String)
  deriving DecidableEq, Repr

namespace Circumstance

/-- The circumstance in words. -/
def message : Circumstance → String
  | .readingVersion path => s!"failed to read version file: {path}"
  | .findingVersion =>
    "cannot determine the recipe version (pass `--recipe-dir` pointing at the folder holding " ++
      "VERSION)"
  | .readingConfig path => s!"failed to read config: {path}"
  | .parsingConfig path => s!"failed to parse config: {path}"
  | .makingConfigFolder path => s!"failed to create config directory: {path}"
  | .writingConfig path => s!"failed to write config: {path}"
  | .applyingSetting key => s!"invalid [settings] entry `{key}`"
  | .driving package => s!"build driver failed for `{package}`"
  | .publishing package => s!"failed to publish `{package}`"
  | .writingPlan => "failed to serialize build plan"
  | .writingMetadata => "failed to serialize package metadata"
  | .creating path => s!"failed to create {path}"

end Circumstance

/-- What went wrong at the root. -/
inductive Cause where
  | option (e : FlagError)
  | setting (e : SettingsError)
  | compatibility (e : CompatibilityError)
  | file (e : FileError)
  /-- A file error while a value was being written. -/
  | output (e : FileError)
  | emptyVersion (path : String)
  | malformedToml
  /-- What a build driver or a registry says. -/
  | refused (message : String)
  deriving DecidableEq

namespace Cause

/-- The cause in words. -/
def message : Cause → String
  | .option e => e.message
  | .setting e => e.message
  | .compatibility e => e.message
  | .file e => e.message
  | .output e => e.message
  | .emptyVersion path =>
    s!"version file is empty: {path}\n" ++ "help: write the package version on the first line"
  | .malformedToml => "malformed TOML"
  | .refused message => message

/-- The diagnostic for the cause, if there is one. -/
def diagnostic? : Cause → Option Diagnostic
  | .option e => some e.diagnostic
  | .setting e => some e.diagnostic
  | .compatibility e => some e.diagnostic
  | _ => none

end Cause

/-- A cause with its circumstances, the outermost one first. -/
structure Failure where
  circumstances : List Circumstance
  cause : Cause
  deriving DecidableEq

namespace Failure

/-- A failure without circumstances. -/
def of (cause : Cause) : Failure := ⟨[], cause⟩

/-- Adds an outer circumstance. -/
def within (circumstance : Circumstance) (f : Failure) : Failure :=
  { f with circumstances := circumstance :: f.circumstances }

/-- The circumstances and the cause in one text, outermost first. -/
def message (f : Failure) : String :=
  ": ".intercalate (f.circumstances.map Circumstance.message ++ [f.cause.message])

/-- What a person is shown. -/
def shown (f : Failure) : String :=
  match f.cause.diagnostic? with
  | some d => d.text
  | none => "error: " ++ f.message ++ "\n"

end Failure

end RecipeResolver
