import RecipeResolver.CommandLine.Commands

/-!
# The program

Runs a command line on the files of the system. The files that a command can look at are read
before it runs, and the one that it may write is written after it.
-/

namespace RecipeResolver

open CommandLine

/-- The code with which the system refuses to read a folder as a file. -/
def isFolderCode : UInt32 := 21

/-- What is at a place of the system. What cannot be read for other reasons counts as missing. -/
def probe (place : List String) : IO (Option FileNode) := do
  try
    return some (.file (← IO.FS.readBinFile ("/" ++ "/".intercalate place)))
  catch e =>
    match e with
    | .inappropriateType _ code _ => return if code = isFolderCode then some .folder else none
    | .permissionDenied .. => return some .sealed
    | _ => return none

/-- Adds to a tree all places that a path leads through. -/
def snapshot (files : FileTree) (path : String) : IO FileTree := do
  let mut files := files
  let mut place := if path.startsWith "/" then [] else files.workingFolder
  for name in Paths.steps path do
    if Paths.isIdle name then continue
    place := if name = ".." then place.dropLast else place ++ [name]
    if let some node ← probe place then
      files := files.put place node
  return files

/-- The paths that a command can look at. -/
def paths (e : Environment) (args : List String) : List String :=
  match CommandLine.parse args e.revision with
  | .command common command =>
    [globalConfig e, projectConfig common, Paths.join common.recipeFolder versionFile] ++
      match command with
      | .plan _ _ (some path) => [path]
      | _ => []
  | _ => []

/-- The path that a command may write to. -/
def writtenPath? (e : Environment) (args : List String) : Option String :=
  match CommandLine.parse args e.revision with
  | .command _ (.plan _ _ (some path)) => some path
  | _ => none

/-- The tree of the folders above the working folder, and that folder itself. -/
def startTree : IO FileTree := do
  let working := (Paths.steps (toString (← IO.currentDir))).filter (· ≠ "")
  return { FileTree.empty.putFolders working with workingFolder := working }

end RecipeResolver

open RecipeResolver CommandLine in
/-- Reads the environment and the files, runs the command, and writes what it leaves behind. -/
def main (args : List String) : IO UInt32 := do
  let seen : Environment :=
    { files := ← startTree, home := ← IO.getEnv "HOME", revision := ← IO.getEnv "QUAY_REVISION" }
  let files ← (paths seen args).foldlM snapshot seen.files
  let done := execute { seen with files } args
  (← IO.getStdout).putStr done.stdout
  (← IO.getStderr).putStr done.stderr
  if let some path := writtenPath? seen args then
    if let .ok content := done.files.read path then
      unless (files.read path).toOption == some content do
        IO.FS.writeBinFile path content
  return UInt32.ofNat done.exitCode
