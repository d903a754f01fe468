import RecipeResolver.Files.Paths

/-!
# Trees of files

A file tree gives for each place, named by the steps from the root, what is there. Paths are
followed step by step, so a path through a file or through nothing fails as it does for an operating
system.
-/

namespace RecipeResolver

/-- Why a file operation fails. -/
inductive FileError where
  | notFound
  | isFolder
  | notFolder
  | alreadyExists
  /-- A path or one of its steps is longer than the system allows. -/
  | nameTooLong
  /-- A path holds the character that ends texts for the system. -/
  | nulInPath
  /-- The system does not let the file be opened. -/
  | denied
  /-- The file was to be read as text and is not UTF-8. -/
  | notText
  /-- No more can be written. -/
  | full
  deriving DecidableEq, Repr

namespace FileError

/-- The error in the words of the operating system. -/
def message : FileError → String
  | .notFound => "No such file or directory (os error 2)"
  | .isFolder => "Is a directory (os error 21)"
  | .notFolder => "Not a directory (os error 20)"
  | .alreadyExists => "File exists (os error 17)"
  | .nameTooLong => "File name too long (os error 36)"
  | .nulInPath => "file name contained an unexpected NUL byte"
  | .denied => "Permission denied (os error 13)"
  | .notText => "stream did not contain valid UTF-8"
  | .full => "disk full"

end FileError

/-- What is at a place. -/
inductive FileNode where
  | file (content : ByteArray)
  /-- A file that may be neither read nor written. -/
  | sealed
  | folder

/-- A tree of files and the folder in which relative paths begin. -/
structure FileTree where
  node? : List String → Option FileNode
  workingFolder : List String

namespace FileTree

/-- The tree with nothing but its root, which is also the working folder. -/
def empty : FileTree where
  node? place := if place = [] then some .folder else none
  workingFolder := []

instance : Inhabited FileTree := ⟨empty⟩

/-- The tree with one place changed. -/
def put (t : FileTree) (place : List String) (node : FileNode) : FileTree :=
  { t with node? := fun p => if p = place then some node else t.node? p }

/-- The tree with a folder at this place and at all places above it. -/
def putFolders (t : FileTree) (place : List String) : FileTree :=
  (List.range (place.length + 1)).foldl (fun t n => t.put (place.take n) .folder) t

/-! ## Following paths -/

/-- The number of bytes that a step may have at most. -/
def stepLimit : Nat := 255

/-- The number of bytes that a path may have at most. -/
def pathLimit : Nat := 4095

/-- Follows steps from a place. All but the last must lead through folders. -/
def follow (t : FileTree) (place : List String) : List String → Except FileError (List String)
  | [] => .ok place
  | step :: rest =>
    match t.node? place with
    | none => .error .notFound
    | some (.file _) | some .sealed => .error .notFolder
    | some .folder =>
      if Paths.isIdle step then follow t place rest
      else if step = ".." then follow t place.dropLast rest
      else if step.utf8ByteSize > stepLimit then .error .nameTooLong
      else follow t (place ++ [step]) rest

/-- The place where a path begins, if it is a path for the system at all. -/
def start (t : FileTree) (path : String) : Except FileError (List String) :=
  if path.toList.contains '\x00' then .error .nulInPath
  else if path.isEmpty then .error .notFound
  else if path.utf8ByteSize > pathLimit then .error .nameTooLong
  else .ok (if Paths.isAbsolute path then [] else t.workingFolder)

/-- The place that a path leads to; there may be nothing at it. -/
def locate (t : FileTree) (path : String) : Except FileError (List String) := do
  t.follow (← t.start path) (Paths.steps path)

/-- The folder in which the last step of a path is made, and that step without the slashes after it.
Nothing if the step leads to a folder that must be there already, as dots do. -/
def lastStep? (t : FileTree) (path : String) :
    Except FileError (Option (List String × String)) := do
  let start ← t.start path
  match Paths.lastStep? path with
  | none => return none
  | some (before, last) =>
    let folder ← t.follow start (before ++ [""])
    return if last = "." ∨ last = ".." then none else some (folder, last)

/-- Whether a path leads to a folder. -/
def isFolder (t : FileTree) (path : String) : Bool :=
  match t.locate path with
  | .ok place => match t.node? place with | some .folder => true | _ => false
  | .error _ => false

/-- Whether a path leads to anything. -/
def exists? (t : FileTree) (path : String) : Bool :=
  match t.locate path with
  | .ok place => (t.node? place).isSome
  | .error _ => false

/-! ## Operations -/

/-- The content of a file. -/
def read (t : FileTree) (path : String) : Except FileError ByteArray := do
  let place ← t.locate path
  match t.node? place with
  | none => .error .notFound
  | some .folder => .error .isFolder
  | some .sealed => .error .denied
  | some (.file content) => .ok content

/-- The content of a file as text. -/
def readText (t : FileTree) (path : String) : Except FileError String := do
  let content ← t.read path
  match String.fromUTF8? content with
  | some text => .ok text
  | none => .error .notText

/-- The place at which a file may be written. A path that ends in a slash means a folder, whatever
is there. -/
def writablePlace (t : FileTree) (path : String) : Except FileError (List String) := do
  match ← t.lastStep? path with
  | none => .error .isFolder
  | some (folder, last) =>
    if path.endsWith "/" then .error .isFolder
    else
      let place ← t.follow folder [last]
      match t.node? place with
      | some .folder => .error .isFolder
      | some .sealed => .error .denied
      | _ => .ok place

/-- Writes a file anew. -/
def write (t : FileTree) (path : String) (content : ByteArray) : Except FileError FileTree := do
  return t.put (← t.writablePlace path) (.file content)

/-- Makes one folder. -/
def makeFolder (t : FileTree) (path : String) : Except FileError FileTree := do
  match ← t.lastStep? path with
  | none => .error .alreadyExists
  | some (folder, last) =>
    let place ← t.follow folder [last]
    match t.node? place with
    | some _ => .error .alreadyExists
    | none => .ok (t.put place .folder)

/-- Makes a folder unless it is there already. -/
def ensureFolder (t : FileTree) (path : String) : FileTree × Except FileError Unit :=
  match t.makeFolder path with
  | .ok t => (t, .ok ())
  | .error e => (t, if t.isFolder path then .ok () else .error e)

/-- Makes a folder and those above it that are missing. What was made stays even if a folder below
it cannot be made. At most as many folders are missing as the path has steps, which bounds the
search upwards. -/
def makeFolders (t : FileTree) (path : String) : FileTree × Except FileError Unit :=
  go (Paths.steps path).length path t
where
  /-- One step of the search. -/
  go : Nat → String → FileTree → FileTree × Except FileError Unit
    | 0, _, t => (t, .ok ())
    | fuel + 1, path, t =>
      if path.isEmpty then (t, .ok ())
      else
        match t.ensureFolder path, Paths.parent? path with
        | (t, .error .notFound), some above =>
          match go fuel above t with
          | (t, .ok ()) => t.ensureFolder path
          | failed => failed
        | answer, _ => answer

end FileTree

end RecipeResolver
