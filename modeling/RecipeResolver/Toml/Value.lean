/-!
# TOML values

The values of the configuration format TOML. A table remembers how it came to be, as this decides
whether a later part of the document may add to it: a table with a header of its own is complete,
one that only stands in a longer header may still get its header, and one that stands in a dotted
key may get more dotted keys.
-/

namespace RecipeResolver

namespace Toml

/-- How a table came to be. -/
inductive Origin where
  /-- By a header of its own. -/
  | header
  /-- As a part of the header of another table. -/
  | implied
  /-- As a part of a dotted key. -/
  | dotted
  deriving DecidableEq, Repr

end Toml

/-- A TOML value. -/
inductive Toml where
  | string (text : String)
  | integer (value : Int)
  /-- A float, as it is written without underscores. -/
  | float (text : String)
  | boolean (value : Bool)
  /-- A date, a time or both, in the standard spelling. -/
  | datetime (text : String)
  | array (items : List Toml)
  /-- A table in braces; nothing can be added to it later. -/
  | inline (entries : List (String × Toml))
  | table (origin : Toml.Origin) (entries : List (String × Toml))
  /-- Tables under a repeated header in double brackets. -/
  | tables (elements : List Toml)

namespace Toml

/-- The characters of a key without quotes. -/
def isBareKeyChar (c : Char) : Bool :=
  c.isAlphanum || c == '-' || c == '_'

/-- The entries of a table. -/
abbrev Entries := List (String × Toml)

/-- The value of a key. -/
def find? (key : String) (entries : Entries) : Option Toml :=
  (entries.find? fun e => e.1 == key).map Prod.snd

/-- The entries with a new value for a key that has one. -/
def replace (key : String) (value : Toml) (entries : Entries) : Entries :=
  entries.map fun e => if e.1 == key then (key, value) else e

/-- Adds a value under a dotted key, whose last part is `key`. Tables on the way are made where
they are missing. The table that gets the value must come from dotted keys too, and no table on the
way may have a header of its own. -/
def insertDotted : List String → String → Toml → Entries → Option Entries
  | [], key, value, entries =>
    if (find? key entries).isSome then none else some (entries ++ [(key, value)])
  | part :: path, key, value, entries =>
    match find? part entries with
    | none => do
      let made ← insertDotted path key value []
      return entries ++ [(part, .table .dotted made)]
    | some (.table .dotted inner) => do
      let inner ← insertDotted path key value inner
      return replace part (.table .dotted inner) entries
    | some (.table .implied inner) => do
      guard !path.isEmpty
      let inner ← insertDotted path key value inner
      return replace part (.table .implied inner) entries
    | some (.tables elements) =>
      match elements.reverse with
      | .table origin inner :: others => do
        guard !path.isEmpty
        let inner ← insertDotted path key value inner
        return replace part (.tables (others.reverse ++ [.table origin inner])) entries
      | _ => none
    | some _ => none

/-- Changes the table that the path of a header leads to. Tables on the way are made where they are
missing; of tables under a repeated header the last one is meant. -/
def update (change : Entries → Option Entries) : List String → Entries → Option Entries
  | [], entries => change entries
  | part :: path, entries =>
    match find? part entries with
    | none => do
      let made ← update change path []
      return entries ++ [(part, .table .implied made)]
    | some (.table origin inner) => do
      let inner ← update change path inner
      return replace part (.table origin inner) entries
    | some (.tables elements) =>
      match elements.reverse with
      | .table origin inner :: others => do
        let inner ← update change path inner
        return replace part (.tables (others.reverse ++ [.table origin inner])) entries
      | _ => none
    | some _ => none

/-- Gives a table its header: `fill` adds the entries under it to those it has already. The table
takes its place where the header stands, behind the others. -/
def openTable (key : String) (fill : Entries → Option Entries) (entries : Entries) :
    Option Entries :=
  match find? key entries with
  | none => do return entries ++ [(key, .table .header (← fill []))]
  | some (.table .implied inner) => do
    return entries.filter (·.1 != key) ++ [(key, .table .header (← fill inner))]
  | some _ => none

/-- Adds a table under a repeated header. -/
def appendTable (key : String) (fill : Entries → Option Entries) (entries : Entries) :
    Option Entries :=
  match find? key entries with
  | none => do return entries ++ [(key, .tables [.table .header (← fill [])])]
  | some (.tables elements) => do
    return replace key (.tables (elements ++ [.table .header (← fill [])])) entries
  | some _ => none

/-- A dotted key with its value; the last part of the key stands apart. -/
structure Assignment where
  path : List String
  key : String
  value : Toml

/-- Adds assignments in order. -/
def fill (assignments : List Assignment) (entries : Entries) : Option Entries :=
  assignments.foldlM (fun entries a => insertDotted a.path a.key a.value entries) entries

/-- A part of a document: the header, and the assignments under it. -/
structure Block where
  /-- Whether the header is in double brackets. -/
  repeated : Bool
  path : List String
  key : String
  assignments : List Assignment

/-- Adds a block to a document. -/
def addBlock (document : Entries) (b : Block) : Option Entries :=
  if b.repeated then update (appendTable b.key (fill b.assignments)) b.path document
  else update (openTable b.key (fill b.assignments)) b.path document

/-- The table of a document that begins with assignments and goes on with blocks. -/
def ofBlocks (assignments : List Assignment) (blocks : List Block) : Option Entries := do
  blocks.foldlM addBlock (← fill assignments [])

end Toml

end RecipeResolver
