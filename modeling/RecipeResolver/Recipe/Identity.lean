import RecipeResolver.Files.Tree
import RecipeResolver.Recipe.Package
import RecipeResolver.Report.Failure
import RecipeResolver.Text.Blank

/-!
# Identity of a recipe

Name, version and origin of the package that a recipe builds. The version is a part of the recipe or
the first line of a file in the recipe's folder.
-/

namespace RecipeResolver

/-- Where a recipe has its version from. -/
inductive VersionSource where
  | literal (version : String)
  /-- The first line of the file of this name in the recipe's folder. -/
  | file (name : String)
  deriving DecidableEq, Repr

/-- The name of the file that holds the version. -/
def versionFile : String := "VERSION"

namespace VersionSource

/-- The version in the content of a version file: its first line without the blanks around it. -/
def firstLine (content : String) : String :=
  Text.trim (String.ofList (content.toList.takeWhile (· != '\n')))

/-- Reads the version from a file. -/
def readFile (files : FileTree) (path : String) : Except Failure String :=
  match files.readText path with
  | .error e => .error ⟨[.readingVersion path], .file e⟩
  | .ok content =>
    if firstLine content = "" then .error (.of (.emptyVersion path))
    else .ok (firstLine content)

/-- The version of a recipe in this folder. -/
def load (source : VersionSource) (files : FileTree) (folder : String) : Except Failure String :=
  match source with
  | .literal version => .ok version
  | .file name => readFile files (Paths.join folder name)

end VersionSource

/-- Name, version and origin of a package. -/
structure Identity where
  name : String
  version : String
  url : String
  author : String
  /-- The settings that the built package depends on. -/
  settings : List String
  deriving DecidableEq, Repr

namespace Identity

/-- The settings that the library's binaries depend on. -/
def declaredSettings : List String := ["os", "compiler", "build_type", "arch"]

/-- The library at a version. -/
def ofVersion (version : String) : Identity where
  name := libraryName
  version
  url := "https://github.com/ofiriluz/octo-logger-cpp"
  author := "Ofir Iluz"
  settings := declaredSettings

/-- The package as other recipes refer to it. -/
def package (i : Identity) : PackageRef :=
  { name := i.name, version := i.version }

/-- The reference `name/version`. -/
def reference (i : Identity) : String :=
  i.package.text

end Identity

end RecipeResolver
