import RecipeResolver.Feature.Flag
import RecipeResolver.Profile.Compatibility
import RecipeResolver.Profile.Settings
import RecipeResolver.Report.Diagnostic

/-!
# Advice on errors

The diagnostics for refused options, settings and toolchains: what is wrong in other words, what
there is to choose from, and what to type instead. Each kind of error has a stable name, and some
kinds have advice that holds whatever the values are.
-/

namespace RecipeResolver

/-! ## Names and advice -/

/-- The stable name of the kind of error. -/
def FlagError.code : FlagError → String
  | .unknown .. => "quay::options::unknown"
  | .invalidValue .. => "quay::options::invalid_value"
  | .malformed .. => "quay::options::malformed"

/-- The advice that belongs to the kind of error. -/
def FlagError.advice? : FlagError → Option String
  | .invalidValue .. => some "Use True/False, true/false, on/off or 1/0"
  | _ => none

/-- The stable name of the kind of error. -/
def SettingsError.code : SettingsError → String
  | .malformed .. => "quay::settings::malformed"
  | .unknownKey .. => "quay::settings::unknown"
  | .missingCompiler => "quay::settings::no_compiler"
  | .missingVersion .. => "quay::settings::no_compiler_version"
  | .invalidValue .. => "quay::settings::invalid_value"

/-- The advice that belongs to the kind of error. -/
def SettingsError.advice? : SettingsError → Option String
  | .missingCompiler =>
    some ("Pass `-s compiler=gcc -s compiler.version=12` or add a [settings] table to " ++
      ".quay/config.toml")
  | _ => none

/-- The stable name of the kind of error. -/
def CompatibilityError.code : CompatibilityError → String
  | .standardTooLow .. => "quay::validate::standard_too_low"
  | .toolchainTooOld .. => "quay::validate::toolchain_too_old"
  | .unsupportedStandardLibrary .. => "quay::validate::unsupported_stdlib"
  | .unsupportedRuntime .. => "quay::validate::unsupported_runtime"
  | .unknownCompiler .. => "quay::validate::unknown_compiler"

/-- The advice that belongs to the kind of error. -/
def CompatibilityError.advice? : CompatibilityError → Option String
  | .unknownCompiler .. =>
    some ("Set `unknown-compiler = \"warn\"` under [resolve] in .quay/config.toml to assume " ++
      "compatibility")
  | _ => none

/-! ## Diagnostics -/

/-- What is wrong with an option, and what to type instead. -/
def FlagError.explanation : FlagError → Diagnostic
  | .unknown name revision known =>
    (Diagnostic.error s!"option `{name}` does not exist in revision {revision}"
      |>.addContext
        (if known.isEmpty then s!"revision {revision} declares no options"
        else "possible options: " ++ ", ".intercalate known)
      |>.suggest "Run `quay options` to list the declared options")
  | .invalidValue name value =>
    (Diagnostic.error s!"`{value}` is not a boolean value for `{name}`"
      |>.suggest s!"Pass `-o {name}=True` or `-o {name}=False`")
  | .malformed input =>
    (Diagnostic.error s!"could not parse option `{input}`"
      |>.suggest "Options are written as `name=value`")

/-- What to tell about a refused option. -/
def FlagError.diagnostic (e : FlagError) : Diagnostic :=
  e.explanation.identify e.code e.advice?

/-- What to tell about refused settings. -/
def SettingsError.diagnostic (e : SettingsError) : Diagnostic :=
  let d := (Diagnostic.error e.message).identify e.code e.advice?
  match e with
  | .malformed _ => d.suggest "Settings are written as `key=value`, e.g. `compiler=gcc`"
  | .unknownKey _ =>
    d.addContext ("known settings: " ++ ", ".intercalate (SettingKey.all.map SettingKey.name))
  | .missingCompiler => d
  | .missingVersion compiler =>
    d.suggest s!"Pass `-s compiler.version=<version>` for `{compiler}`"
  | .invalidValue _ _ _ => d

/-- The dynamic runtime to use in place of a static one. -/
def Runtime.replacement : Runtime → Runtime
  | .staticDebug => .dynamicDebug
  | _ => .dynamicRelease

/-- What is wrong with a toolchain, and what to use instead. -/
def CompatibilityError.explanation : CompatibilityError → Diagnostic
  | .standardTooLow requested required =>
    (Diagnostic.error
        (s!"`{libraryName}` requires {required.text} but the profile requests " ++ requested.text)
      |>.suggest s!"Pass `-s compiler.cppstd={required.digits}` or higher"
      |>.suggest "Remove `compiler.cppstd` to let the compiler default apply")
  | .toolchainTooOld family required actual =>
    (Diagnostic.error
        (s!"`{libraryName}` requires {Standard.minimum.text}, which your compiler does not " ++
          "support")
      |>.addContext
        (s!"{family.name} {actual.text} is older than the minimum {family.name} " ++ required.text)
      |>.suggest s!"Upgrade {family.name} to {required.major.toNat} or newer")
  | .unsupportedStandardLibrary family stdlib =>
    (Diagnostic.error s!"`{libraryName}` does not support {family.name} with {stdlib}"
      |>.suggest "Pass `-s compiler.libcxx=libstdc++11`")
  | .unsupportedRuntime runtime =>
    (Diagnostic.error s!"`{libraryName}` does not support the {runtime.flag} runtime"
      |>.addContext "only the dynamic runtimes (MD, MDd) are supported"
      |>.suggest s!"Pass `-s compiler.runtime={runtime.replacement.flag}`")
  | .unknownCompiler family =>
    (Diagnostic.error s!"compiler `{family.name}` is not in the minimum version table"
      |>.addContext "the unknown-compiler policy is set to deny"
      |>.suggest "Use gcc, clang, apple-clang or Visual Studio")

/-- What to tell about a refused toolchain. -/
def CompatibilityError.diagnostic (e : CompatibilityError) : Diagnostic :=
  e.explanation.identify e.code e.advice?

end RecipeResolver
