import RecipeResolver.Text.Blank
import RecipeResolver.Version.Basic

/-!
# Toolchains

A toolchain is a compiler of some family at some version, with the standard library and the
runtime linkage it uses where these are known.
-/

namespace RecipeResolver

/-- A family of compilers. -/
inductive CompilerFamily where
  | gcc
  | clang
  | appleClang
  | msvc
  /-- A compiler that no rule speaks about, with the name it was given. -/
  | unknown (name : String)
  deriving DecidableEq, Repr

namespace CompilerFamily

/-- The name in messages. -/
def name : CompilerFamily → String
  | .gcc => "gcc"
  | .clang => "clang"
  | .appleClang => "apple-clang"
  | .msvc => "Visual Studio"
  | .unknown name => name

/-- The family of a compiler's name. Microsoft's compiler goes by two names. -/
def ofName (s : String) : CompilerFamily :=
  let name := Text.trim s
  if name = "gcc" then .gcc
  else if name = "clang" then .clang
  else if name = "apple-clang" then .appleClang
  else if name = "Visual Studio" ∨ name = "msvc" then .msvc
  else .unknown name

/-- Whether the family is one of the four that rules speak about. -/
def isKnown : CompilerFamily → Bool
  | .unknown _ => false
  | _ => true

end CompilerFamily

/-- How a program is linked to the C runtime of Visual Studio. -/
inductive Runtime where
  | staticDebug
  | staticRelease
  | dynamicDebug
  | dynamicRelease
  deriving DecidableEq, Repr

namespace Runtime

/-- Every linkage. -/
def all : List Runtime := [.staticDebug, .staticRelease, .dynamicDebug, .dynamicRelease]

/-- The compiler flag that selects the linkage. -/
def flag : Runtime → String
  | .staticDebug => "MTd"
  | .staticRelease => "MT"
  | .dynamicDebug => "MDd"
  | .dynamicRelease => "MD"

/-- The linkage in words. -/
def words : Runtime → String
  | .staticDebug => "static-debug"
  | .staticRelease => "static-release"
  | .dynamicDebug => "dynamic-debug"
  | .dynamicRelease => "dynamic-release"

/-- Whether the runtime becomes part of the program. -/
def isStatic : Runtime → Bool
  | .staticDebug | .staticRelease => true
  | .dynamicDebug | .dynamicRelease => false

/-- The linkage of a flag or of its words, blanks around it aside. -/
def parse? (s : String) : Option Runtime :=
  all.find? fun r => r.flag == Text.trim s || r.words == Text.trim s

/-- Why a text is no linkage. -/
def refusal (s : String) : String :=
  s!"invalid runtime '{Text.trim s}'; expected MT, MTd, MD or MDd"

end Runtime

/-- A compiler as the recipe sees it. -/
structure Toolchain where
  family : CompilerFamily
  version : Version
  /-- The variant of the standard library, such as `libstdc++11`. -/
  stdlib : Option String := none
  runtime : Option Runtime := none
  deriving DecidableEq

namespace Toolchain

/-- The toolchain in one line: `clang 15.0.0 (libc++)`. -/
def text (t : Toolchain) : String :=
  s!"{t.family.name} {t.version.text}" ++
    (match t.stdlib with | some lib => s!" ({lib})" | none => "") ++
    (match t.runtime with | some r => s!" [{r.flag}]" | none => "")

end Toolchain

/-- The Visual Studio release that a toolset number belongs to. -/
def Version.visualStudio? (toolset : Version) : Option Version :=
  if toolset.major = 190 then some (.release 14 0 0)
  else if toolset.major = 191 then some (.release 15 0 0)
  else if toolset.major = 192 then some (.release 16 0 0)
  else if toolset.major = 193 ∨ toolset.major = 194 then some (.release 17 0 0)
  else none

end RecipeResolver
