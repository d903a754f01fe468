import RecipeResolver.Profile.Standard
import RecipeResolver.Profile.Toolchain
import RecipeResolver.Recipe.Package
import RecipeResolver.Report.Diagnostic
import RecipeResolver.Report.Journal
import RecipeResolver.Text.LowerCase
import RecipeResolver.Version.Order

/-!
# Compatibility of toolchains

`Compatibility.check` decides whether the library can be built by a toolchain at the standard that
is asked for. It reports the first rule that is broken; a compiler that no rule speaks about is
accepted with a warning or refused, as the policy says.
-/

namespace RecipeResolver

/-- The oldest version accepted of each family; the first entry of a family counts. -/
structure MinimumVersions where
  entries : List (CompilerFamily × Version)
  deriving DecidableEq

namespace MinimumVersions

/-- The oldest version accepted of a family, if the table lists it. -/
def find? (table : MinimumVersions) (family : CompilerFamily) : Option Version :=
  (table.entries.find? fun entry => entry.1 == family).map Prod.snd

end MinimumVersions

/-- What to do about compilers that the table does not list. -/
inductive UnknownCompilerPolicy where
  | warn
  | deny
  deriving DecidableEq, Repr, Inhabited

namespace UnknownCompilerPolicy

/-- The name of the policy. -/
def name : UnknownCompilerPolicy → String
  | .warn => "warn"
  | .deny => "deny"

/-- The policy of a name in any case. -/
def parse? (s : String) : Option UnknownCompilerPolicy :=
  [warn, deny].find? fun p => p.name == Text.lowerCase s

/-- Why a text is no policy. -/
def refusal (s : String) : String :=
  s!"invalid unknown-compiler policy '{s}'; expected 'warn' or 'deny'"

end UnknownCompilerPolicy

/-- Why a toolchain is refused. -/
inductive CompatibilityError where
  | standardTooLow (requested required : Standard)
  | toolchainTooOld (family : CompilerFamily) (required actual : Version)
  | unsupportedStandardLibrary (family : CompilerFamily) (stdlib : String)
  | unsupportedRuntime (runtime : Runtime)
  | unknownCompiler (family : CompilerFamily)
  deriving DecidableEq

namespace CompatibilityError

/-- The error in one line. -/
def message : CompatibilityError → String
  | .standardTooLow requested required =>
    s!"{libraryName} requires at least {required.text}, but {requested.text} was requested"
  | .toolchainTooOld family required actual =>
    s!"{libraryName} requires {Standard.minimum.text}, which {family.name} {actual.text} " ++
      s!"does not support (minimum {required.text})"
  | .unsupportedStandardLibrary family stdlib =>
    s!"{libraryName} does not support {family.name} with {stdlib}. Use libstdc++ instead."
  | .unsupportedRuntime runtime =>
    s!"{libraryName} does not support MSVC {runtime.flag} configurations, only MD/MDd is supported"
  | .unknownCompiler family =>
    s!"{libraryName} requires {Standard.minimum.text} and compiler `{family.name}` is unknown"

end CompatibilityError

namespace Compatibility

/-- The standard library of LLVM, with which clang is refused. -/
def llvmLibrary : String := "libc++"

/-- The warning about a compiler that is accepted unseen. -/
def unknownWarning (family : CompilerFamily) : Diagnostic :=
  .warning <| s!"{libraryName} requires {Standard.minimum.text}. Your compiler `{family.name}` " ++
    s!"is unknown. Assuming it supports {Standard.minimum.text}."

/-- The standard that is asked for must be new enough. -/
def checkStandard (requested : Option Standard) : Except CompatibilityError Unit :=
  match requested with
  | some standard =>
    if standard.isBefore .minimum then .error (.standardTooLow standard .minimum) else .ok ()
  | none => .ok ()

/-- The compiler must be listed and new enough, or the policy must let it pass with a warning. -/
def checkVersion (table : MinimumVersions) (t : Toolchain) (policy : UnknownCompilerPolicy) :
    Except CompatibilityError (List Diagnostic) :=
  match table.find? t.family, policy with
  | none, .warn => .ok [unknownWarning t.family]
  | none, .deny => .error (.unknownCompiler t.family)
  | some minimum, _ =>
    if t.version.isOlder minimum then .error (.toolchainTooOld t.family minimum t.version)
    else .ok []

/-- Clang is not supported with its own standard library. -/
def checkLibrary (t : Toolchain) : Except CompatibilityError Unit :=
  if t.family = .clang ∧ t.stdlib = some llvmLibrary then
    .error (.unsupportedStandardLibrary t.family llvmLibrary)
  else .ok ()

/-- Visual Studio is supported with the dynamic runtimes alone. -/
def checkRuntime (t : Toolchain) : Except CompatibilityError Unit :=
  match t.family, t.runtime with
  | .msvc, some runtime => if runtime.isStatic then .error (.unsupportedRuntime runtime) else .ok ()
  | _, _ => .ok ()

/-- Applies the rules in order: the standard, the compiler, its standard library, its runtime. An
accepted toolchain comes with the warnings about it. -/
def check (table : MinimumVersions) (t : Toolchain) (requested : Option Standard)
    (policy : UnknownCompilerPolicy) : Except CompatibilityError (List Diagnostic) := do
  checkStandard requested
  let warnings ← checkVersion table t policy
  checkLibrary t
  checkRuntime t
  return warnings

/-- What the journal says about a check: its warnings, even if a later rule refuses the toolchain,
and that it was accepted. -/
def events (table : MinimumVersions) (t : Toolchain) (requested : Option Standard)
    (policy : UnknownCompilerPolicy) : List Event :=
  let warned :=
    match checkStandard requested, checkVersion table t policy with
    | .ok _, .ok warnings => warnings.map fun d => Event.warn d.message
    | _, _ => []
  match check table t requested policy with
  | .ok _ => warned ++ [.debug s!"toolchain {t.text} accepted"]
  | .error _ => warned

end Compatibility

end RecipeResolver
