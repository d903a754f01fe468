import RecipeResolver.Config.Document

/-!
# Configuration files

Configurations are kept in a global file and in a file of the project. `Config.layered` merges the
two; a file that is missing or cannot be used counts as one that says nothing.
-/

namespace RecipeResolver

namespace Config

/-- The configuration in a file. -/
def load (files : FileTree) (path : String) : Except Failure Config :=
  match files.readText path with
  | .error e => .error ⟨[.readingConfig path], .file e⟩
  | .ok content =>
    match ofDocument? content with
    | some c => .ok c
    | none => .error ⟨[.parsingConfig path], .malformedToml⟩

/-- The configuration in a file, or the empty one where the file is missing or cannot be used. -/
def loadOrEmpty (files : FileTree) (path : String) : Config :=
  if files.exists? path then
    match load files path with
    | .ok c => c
    | .error _ => empty
  else empty

/-- What the journal says about a file that is there and cannot be used. -/
def loadEvents (files : FileTree) (path : String) : List Event :=
  if files.exists? path then
    match load files path with
    | .ok _ => []
    | .error f => [.warn (s!"Failed to load config from {path}: " ++ f.message)]
  else []

/-- The configuration of the global file overlaid with that of the project's file. -/
def layered (files : FileTree) (globalPath projectPath : String) : Config :=
  (empty.merge (loadOrEmpty files globalPath)).merge (loadOrEmpty files projectPath)

/-- What the journal says about the two files. -/
def layeredEvents (files : FileTree) (globalPath projectPath : String) : List Event :=
  loadEvents files globalPath ++ loadEvents files projectPath

/-- Writes the configuration to a file in a folder that is there. -/
def write (c : Config) (files : FileTree) (path : String) : FileTree × Except Failure Unit :=
  match files.write path c.document.toUTF8 with
  | .ok files => (files, .ok ())
  | .error e => (files, .error ⟨[.writingConfig path], .file e⟩)

/-- Writes the configuration to a file. Missing folders on the way are made first, and they stay
even if the file cannot be written. -/
def save (c : Config) (files : FileTree) (path : String) : FileTree × Except Failure Unit :=
  match Paths.parent? path with
  | none => c.write files path
  | some folder =>
    match files.makeFolders folder with
    | (files, .ok ()) => c.write files path
    | (files, .error e) => (files, .error ⟨[.makingConfigFolder folder], .file e⟩)

/-- The name of the file within the folder that holds it. -/
def fileName : String := ".quay/config.toml"

end Config

end RecipeResolver
