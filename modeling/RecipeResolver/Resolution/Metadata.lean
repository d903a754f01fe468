import RecipeResolver.OrderedMap

/-!
# Discovery metadata

What a registry publishes about an installed package: the names under which build tools find it,
its components, and what consumers define and link against. `PackageMetadata.aliases` collects the
names.
-/

namespace RecipeResolver

/-- A build tool's convention of naming packages. -/
inductive Generator where
  | cmakeFindPackage
  | cmakeFindPackageMulti
  | pkgConfig
  deriving DecidableEq, Repr

namespace Generator

/-- Every convention, in order. -/
def all : List Generator := [.cmakeFindPackage, .cmakeFindPackageMulti, .pkgConfig]

/-- The two conventions of CMake. -/
def cmake : List Generator := [.cmakeFindPackage, .cmakeFindPackageMulti]

/-- The name of a convention. -/
def name : Generator → String
  | .cmakeFindPackage => "cmake_find_package"
  | .cmakeFindPackageMulti => "cmake_find_package_multi"
  | .pkgConfig => "pkg_config"

/-- The convention of exactly this name. -/
def ofName? (name : String) : Option Generator :=
  all.find? fun g => g.name == name

/-- The place of a convention in the order. -/
def rank : Generator → Nat
  | .cmakeFindPackage => 0
  | .cmakeFindPackageMulti => 1
  | .pkgConfig => 2

instance : Ord Generator := ⟨fun a b => compare a.rank b.rank⟩

instance : Std.TransOrd Generator where
  eq_swap := fun {a b} => by cases a <;> cases b <;> decide
  isLE_trans := fun {a b c} => by cases a <;> cases b <;> cases c <;> decide

instance : Std.LawfulEqOrd Generator where
  compare_self := fun {a} => by cases a <;> decide
  eq_of_compare := fun {a b} => by cases a <;> cases b <;> decide

end Generator

/-- A library of an installed package. -/
structure Component where
  name : String
  /-- The library files to link. -/
  libs : List String
  /-- Components of other packages to link, in order. -/
  requires : List String
  defines : List String
  names : OrderedMap Generator String
  properties : OrderedMap String String
  deriving DecidableEq

/-- What is published about an installed package. -/
structure PackageMetadata where
  name : String
  defines : List String
  names : OrderedMap Generator String
  filenames : OrderedMap Generator String
  properties : OrderedMap String String
  components : List Component
  deriving DecidableEq

/-- Inserts a text at its place in a strictly ascending list, unless it is there. -/
def insertDistinct (s : String) : List String → List String
  | [] => [s]
  | t :: rest =>
    if s < t then s :: t :: rest
    else if s = t then t :: rest
    else t :: insertDistinct s rest

/-- The texts in ascending order, each once. -/
def sortedDistinct (texts : List String) : List String :=
  texts.foldr insertDistinct []

namespace PackageMetadata

/-- The first component of a name. -/
def component? (m : PackageMetadata) (name : String) : Option Component :=
  m.components.find? fun c => c.name == name

/-- Every name that some build tool knows the package by, in the order of occurrence. -/
def allNames (m : PackageMetadata) : List String :=
  m.name :: (m.names.values ++ m.filenames.values ++ m.properties.values ++
    m.components.flatMap fun c => c.names.values ++ c.properties.values)

/-- The names that build tools know the package by, in ascending order, each once. -/
def aliases (m : PackageMetadata) : List String :=
  sortedDistinct m.allNames

end PackageMetadata

end RecipeResolver
