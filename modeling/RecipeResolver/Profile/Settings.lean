import RecipeResolver.Profile.Standard
import RecipeResolver.Profile.Toolchain
import RecipeResolver.Text.Cut
import RecipeResolver.Version.Short

/-!
# Profile settings

A profile assigns texts to eight known keys (`compiler`, `compiler.version`, …). `Settings.set` and
`Settings.assign` write one key, `Settings.merge` overlays a whole profile, and `Settings.toolchain`
and `Settings.standard` read off what the profile means.
-/

namespace RecipeResolver

/-- A key that a profile may assign. -/
inductive SettingKey where
  | os
  | arch
  | buildType
  | compiler
  | compilerVersion
  | compilerLibcxx
  | compilerRuntime
  | compilerCppstd
  deriving DecidableEq, Repr

namespace SettingKey

/-- Every key, in the order in which messages list them. -/
def all : List SettingKey :=
  [.os, .arch, .buildType, .compiler, .compilerVersion, .compilerLibcxx, .compilerRuntime,
    .compilerCppstd]

/-- The written form of a key. -/
def name : SettingKey → String
  | .os => "os"
  | .arch => "arch"
  | .buildType => "build_type"
  | .compiler => "compiler"
  | .compilerVersion => "compiler.version"
  | .compilerLibcxx => "compiler.libcxx"
  | .compilerRuntime => "compiler.runtime"
  | .compilerCppstd => "compiler.cppstd"

/-- The key of exactly this name. -/
def ofName? (name : String) : Option SettingKey :=
  all.find? fun key => key.name == name

end SettingKey

/-- Why settings are refused. -/
inductive SettingsError where
  /-- An assignment without an equals sign. -/
  | malformed (input : String)
  | unknownKey (key : String)
  | missingCompiler
  | missingVersion (compiler : String)
  | invalidValue (key value reason : String)
  deriving DecidableEq, Repr

namespace SettingsError

/-- The error in one line. -/
def message : SettingsError → String
  | .malformed input => s!"malformed setting `{input}`, expected `key=value`"
  | .unknownKey key => s!"unknown setting `{key}`"
  | .missingCompiler => "no compiler configured"
  | .missingVersion compiler => s!"compiler `{compiler}` has no version"
  | .invalidValue key value reason => s!"invalid value `{value}` for setting `{key}`: {reason}"

end SettingsError

/-- A profile: for each key its value, if it is set. -/
structure Settings where
  value? : SettingKey → Option String

namespace Settings

/-- The profile that sets nothing. -/
def empty : Settings := ⟨fun _ => none⟩

instance : Inhabited Settings := ⟨empty⟩

@[ext]
theorem ext {a b : Settings} (h : ∀ key, a.value? key = b.value? key) : a = b := by
  cases a; cases b; congr; exact funext h

/-- The keys that are set, with their values. -/
def toList (s : Settings) : List (SettingKey × String) :=
  SettingKey.all.filterMap fun key => (s.value? key).map fun value => (key, value)

/-- The profile with one key set. -/
def insert (s : Settings) (key : SettingKey) (value : String) : Settings :=
  ⟨fun k => if k = key then some value else s.value? k⟩

theorem value?_insert (s : Settings) (key k : SettingKey) (value : String) :
    (s.insert key value).value? k = if k = key then some value else s.value? k := rfl

/-- Sets the key of a name to a value, both without the blanks around them. -/
def set (s : Settings) (key value : String) : Except SettingsError Settings :=
  match SettingKey.ofName? (Text.trim key) with
  | some k => .ok (s.insert k (Text.trim value))
  | none => .error (.unknownKey (Text.trim key))

/-- Sets a key by an argument `key=value`. -/
def assign (s : Settings) (input : String) : Except SettingsError Settings :=
  match Text.cut? '=' input with
  | some (key, value) => s.set key value
  | none => .error (.malformed input)

/-- Overlays another profile; where both set a key, the other one wins. -/
def merge (s other : Settings) : Settings :=
  ⟨fun key => (other.value? key).or (s.value? key)⟩

/-- The operating system that is built for. -/
def os (s : Settings) : Option String :=
  s.value? .os

/-- The language standard that is asked for, if any. -/
def standard (s : Settings) : Except SettingsError (Option Standard) :=
  match s.value? .compilerCppstd with
  | none => .ok none
  | some value =>
    match Standard.read value with
    | .ok standard => .ok (some standard)
    | .error e => .error (.invalidValue SettingKey.compilerCppstd.name value e.message)

/-- The runtime linkage that is asked for, if any. -/
def runtime (s : Settings) : Except SettingsError (Option Runtime) :=
  match s.value? .compilerRuntime with
  | none => .ok none
  | some value =>
    match Runtime.parse? value with
    | some runtime => .ok (some runtime)
    | none =>
      .error (.invalidValue SettingKey.compilerRuntime.name value (Runtime.refusal value))

/-- The name under which Microsoft's compiler gives toolset numbers as its version. -/
def toolsetCompiler : String := "msvc"

/-- The version of a compiler as its family counts: for `msvc` the Visual Studio release of the
toolset, otherwise the version as it is written. -/
def compilerVersion (compiler version : String) : Except SettingsError Version :=
  let invalid (reason : String) : SettingsError :=
    .invalidValue SettingKey.compilerVersion.name version reason
  match Version.ofShort? version with
  | none => .error (invalid "not a version number")
  | some v =>
    if compiler = toolsetCompiler then
      match v.visualStudio? with
      | some release => .ok release
      | none => .error (invalid "not an msvc toolset version (190 to 194)")
    else .ok v

/-- The toolchain that the profile describes. -/
def toolchain (s : Settings) : Except SettingsError Toolchain := do
  let some compiler := s.value? .compiler | throw .missingCompiler
  let some versionText := s.value? .compilerVersion | throw (.missingVersion compiler)
  let version ← compilerVersion compiler versionText
  let runtime ← s.runtime
  return { family := .ofName compiler, version, stdlib := s.value? .compilerLibcxx, runtime }

/-- The Visual Studio release behind the profile's toolset number, with that number as it is
written, where the profile has one. -/
def visualStudio? (s : Settings) : Option (String × Version) := do
  let compiler ← s.value? .compiler
  let version ← s.value? .compilerVersion
  guard (compiler = toolsetCompiler)
  let release ← (← Version.ofShort? version).visualStudio?
  return (version, release)

end Settings

end RecipeResolver
