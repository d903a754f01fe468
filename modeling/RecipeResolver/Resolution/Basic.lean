import RecipeResolver.Recipe.Schema
import RecipeResolver.Resolution.Metadata

/-!
# Resolution

`resolve` decides what a schema means under given flags: which packages are required, which options
are forced on them, what is defined, and what is published. It is a function of the schema, the
identity, the flags and the standard, and of nothing else.
-/

namespace RecipeResolver

/-- What a recipe comes to. -/
structure Resolution where
  revision : Revision
  package : Identity
  /-- The flags after the implications. -/
  features : NormalizedFlags
  /-- The required packages in the order of declaration, each once. -/
  requirements : List PackageRef
  overrides : List OptionOverride
  defines : List String
  /-- The language standard that was asked for. -/
  standard : Option Standard
  metadata : PackageMetadata
  deriving DecidableEq

namespace Resolution

/-- The packages without those whose name was `seen` or stands earlier, and the ones left out. -/
def dropRepeated (seen : List String) : List PackageRef → List PackageRef × List PackageRef
  | [] => ([], [])
  | p :: rest =>
    if seen.contains p.name then
      ((dropRepeated seen rest).1, p :: (dropRepeated seen rest).2)
    else
      (p :: (dropRepeated (p.name :: seen) rest).1, (dropRepeated (p.name :: seen) rest).2)

/-- The namespace of the target that is exported to CMake. -/
def targetNamespace : String := "octo"

/-- The target that is exported to CMake. -/
def target (package : String) : String :=
  s!"{targetNamespace}::{package}"

/-- What is published about a package: it goes by its own name with every tool but for the target,
and has one library. -/
def publishedMetadata (package : String) (defines requires : List String) : PackageMetadata where
  name := package
  defines
  names := .ofList (Generator.all.map fun g => (g, package))
  filenames := .ofList (Generator.cmake.map fun g => (g, package))
  properties := .ofList
    [("cmake_file_name", package), ("cmake_target_name", target package),
      ("pkg_config_name", package)]
  components := [{
    name := "lib" ++ package
    libs := [package]
    requires
    defines
    names := .ofList (Generator.cmake.map fun g => (g, package))
    properties := .ofList
      [("cmake_target_name", target package), ("pkg_config_name", package)] }]

end Resolution

open Resolution in
/-- What a schema comes to under these flags. -/
def resolve (schema : Schema) (identity : Identity) (flags : NormalizedFlags)
    (standard : Option Standard) : Resolution :=
  let defines := selected flags schema.defines
  { revision := schema.revision
    package := identity
    features := flags
    requirements := (dropRepeated [] (selected flags schema.requirements)).1
    overrides := selected flags schema.overrides
    defines
    standard
    metadata :=
      publishedMetadata identity.name defines (selected flags schema.componentRequires) }

namespace Resolution

/-- What the journal says about a resolution: the requirements left out because their package had
been required before, and how much was found. -/
def events (r : Resolution) (schema : Schema) : List Event :=
  let repeated := (dropRepeated [] (selected r.features schema.requirements)).2
  repeated.map (fun p => .debug s!"skipping duplicate requirement {p.text}") ++
    [.debug
      s!"resolved {r.requirements.length} requirements and {r.defines.length} defines"]

end Resolution

end RecipeResolver
