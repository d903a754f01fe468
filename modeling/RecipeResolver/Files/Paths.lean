import RecipeResolver.Text.Cut

/-!
# Paths

A path is a text of steps with slashes between them. Before the first slash of an absolute path
stands an empty step. Empty steps and single dots lead nowhere, so `parent?` passes over those at
the end of a path, and two dots are a step like any other one.
-/

namespace RecipeResolver.Paths

/-- Whether a path begins at the root and not in the working folder. -/
def isAbsolute (path : String) : Bool := path.startsWith "/"

/-- A path followed by another one; an absolute one stands alone. -/
def join (folder path : String) : String :=
  if isAbsolute path || folder.isEmpty then path
  else if folder.endsWith "/" then folder ++ path
  else folder ++ "/" ++ path

/-- The steps of a path. -/
def steps (path : String) : List String :=
  (Text.pieces '/' path.toList).map String.ofList

/-- Whether a step stays in the folder in which it is made. -/
def isIdle (step : String) : Bool := step = "" || step = "."

/-- The steps without the idle ones at the end. -/
def trimIdle (steps : List String) : List String :=
  (steps.reverse.dropWhile isIdle).reverse

/-- The path without its last step, or nothing if it has none. The first step of a relative path
counts even if it is a dot. -/
def parent? (path : String) : Option String :=
  match steps path with
  | [] => none
  | first :: rest =>
    match trimIdle rest with
    | [] => if first = "" then none else some ""
    | others =>
      match trimIdle others.dropLast with
      | [] => some (if first = "" then "/" else first)
      | kept => some ("/".intercalate (first :: kept))

/-- The last step of a path and those before it, without the slashes at the end; nothing for a path
of slashes only. -/
def lastStep? (path : String) : Option (List String × String) :=
  match (steps path).reverse.dropWhile (· = "") with
  | [] => none
  | last :: before => some (before.reverse, last)

end RecipeResolver.Paths
