import RecipeResolver.Json.Printer
import RecipeResolver.Json.Reader
import RecipeResolver.Profile.Compatibility
import RecipeResolver.Recipe.Revision

/-!
# JSON forms of profile values

How standards, toolchains, revisions and policies are written as JSON and read back.
-/

namespace RecipeResolver

/-- An optional value, `null` if there is none. -/
def Json.ofOption {α : Type} (toJson : α → Json) : Option α → Json
  | some a => toJson a
  | none => .null

namespace Revision

/-- The name of the revision. -/
def toJson (r : Revision) : Json := .string r.name

/-- The revision of exactly this name. -/
def ofJson? (j : Json) : Option Revision := do
  let name ← j.choice?
  all.find? fun r => r.name == name

end Revision

namespace UnknownCompilerPolicy

/-- The name of the policy. -/
def toJson (p : UnknownCompilerPolicy) : Json := .string p.name

/-- The policy of exactly this name. -/
def ofJson? (j : Json) : Option UnknownCompilerPolicy := do
  let name ← j.choice?
  [warn, deny].find? fun p => p.name == name

end UnknownCompilerPolicy

namespace Standard

/-- The two digits of the standard. -/
def toJson (s : Standard) : Json := .string s.digits

/-- The spellings of a standard in data: its digits alone, after `c++` or after `gnu`. -/
def spellings (s : Standard) : List String :=
  [s.digits, "c++" ++ s.digits, "gnu" ++ s.digits]

/-- The standard of one of its spellings. -/
def ofJson? (j : Json) : Option Standard := do
  let name ← j.choice?
  all.find? fun s => s.spellings.contains name

end Standard

namespace Runtime

/-- The linkage in words. -/
def toJson (r : Runtime) : Json := .string r.words

/-- The linkage of exactly these words. -/
def ofJson? (j : Json) : Option Runtime := do
  let name ← j.choice?
  all.find? fun r => r.words == name

end Runtime

namespace CompilerFamily

/-- The families that have a name of their own in data. -/
def named : List (String × CompilerFamily) :=
  [("gcc", .gcc), ("clang", .clang), ("apple-clang", .appleClang), ("msvc", .msvc)]

/-- A name, or an object that holds the name of an unknown compiler. -/
def toJson : CompilerFamily → Json
  | .gcc => .string "gcc"
  | .clang => .string "clang"
  | .appleClang => .string "apple-clang"
  | .msvc => .string "msvc"
  | .unknown name => .object [("unknown", .string name)]

/-- The family of a name in data. -/
def ofJson? : Json → Option CompilerFamily
  | .object [("unknown", j)] => j.text?.map .unknown
  | j => do
    let name ← j.choice?
    (named.find? fun entry => entry.1 == name).map Prod.snd

end CompilerFamily

namespace Version

/-- The written form. -/
def toJson (v : Version) : Json := .string v.text

/-- The version of a full text. -/
def ofJson? (j : Json) : Option Version := j.text?.bind parse?

end Version

namespace Toolchain

/-- The names of the fields. -/
def fieldNames : List String := ["family", "version", "stdlib", "runtime"]

/-- An object with all fields. -/
def toJson (t : Toolchain) : Json :=
  .object
    [("family", t.family.toJson), ("version", t.version.toJson),
      ("stdlib", .ofOption .string t.stdlib), ("runtime", .ofOption Runtime.toJson t.runtime)]

/-- The toolchain of an object. -/
def ofJson? (j : Json) : Option Toolchain := do
  match ← j.fields? fieldNames 4 with
  | [family, version, stdlib, runtime] =>
    return { family := ← Json.required? CompilerFamily.ofJson? family
             version := ← Json.required? Version.ofJson? version
             stdlib := ← Json.optional? Json.text? stdlib
             runtime := ← Json.optional? Runtime.ofJson? runtime }
  | _ => none

end Toolchain

end RecipeResolver
