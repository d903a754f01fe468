import RecipeResolver.Config.Basic
import RecipeResolver.Toml.Parser
import RecipeResolver.Toml.Writer

/-!
# Configuration documents

Configurations as TOML documents with the tables `resolve`, `options` and `settings`. A table may
be written as the list of its fields in order; a choice may be written as a table with its name as
the only key, before something empty.
-/

namespace RecipeResolver

namespace Toml

/-- Whether a value holds others and has none. -/
def isEmptyCollection : Toml → Bool
  | .array [] | .inline [] | .table _ [] | .tables [] => true
  | _ => false

/-- The name of a choice. A table has the name as its only key. -/
def choice? : Toml → Option String
  | .string name => some name
  | .inline [(name, v)] | .table _ [(name, v)] => if v.isEmptyCollection then some name else none
  | _ => none

/-- The key under which a date counts as an entry where entries are expected. -/
def dateKey : String := "$__toml_private_datetime"

/-- The entries of a value that has some. -/
def entries? : Toml → Option Entries
  | .inline entries => some entries
  | .table _ entries => some entries
  | .datetime text => some [(dateKey, .string text)]
  | _ => none

/-- The fields of a table in the order of their names, each with its value if it is there. -/
def fields? (names : List String) : Toml → Option (List (Option Toml))
  | .array items => some ((List.range names.length).map fun i => items[i]?)
  | .tables elements => some ((List.range names.length).map fun i => elements[i]?)
  | v => v.entries?.map fun entries => names.map fun name => find? name entries

/-- A text. -/
def text? : Toml → Option String
  | .string s => some s
  | _ => none

/-- A truth value. -/
def bool? : Toml → Option Bool
  | .boolean b => some b
  | _ => none

/-- A map whose values are read alike. -/
def map? {ν : Type} (value? : Toml → Option ν) (v : Toml) : Option (OrderedMap String ν) := do
  let entries ← v.entries?
  return .ofList (← entries.mapM fun (key, v) => do return (key, ← value? v))

/-- A value that has a default when it is left out. -/
def defaulted? {α : Type} (value? : Toml → Option α) (byDefault : α) : Option Toml → Option α
  | none => some byDefault
  | some v => value? v

/-- A value that may be left out. -/
def optional? {α : Type} (value? : Toml → Option α) : Option Toml → Option (Option α)
  | none => some none
  | some v => (value? v).map some

end Toml

namespace Config

/-- The revision of exactly this name. -/
def revisionOfToml? (v : Toml) : Option Revision := do
  let name ← v.choice?
  Revision.all.find? fun r => r.name == name

/-- The policy of exactly this name. -/
def policyOfToml? (v : Toml) : Option UnknownCompilerPolicy := do
  let name ← v.choice?
  [UnknownCompilerPolicy.warn, .deny].find? fun p => p.name == name

/-- The revision and the policy of the table `resolve`. -/
def choicesOfToml? (v : Toml) : Option (Option Revision × Option UnknownCompilerPolicy) := do
  match ← v.fields? ["revision", "unknown-compiler"] with
  | [revision, policy] =>
    return (← Toml.optional? revisionOfToml? revision, ← Toml.optional? policyOfToml? policy)
  | _ => none

/-- The configuration of the entries of a document. -/
def ofEntries? (entries : Toml.Entries) : Option Config := do
  let (revision, unknownCompiler) ←
    Toml.defaulted? choicesOfToml? (none, none) (Toml.find? "resolve" entries)
  let options ← Toml.defaulted? (Toml.map? Toml.bool?) .empty (Toml.find? "options" entries)
  let settings ← Toml.defaulted? (Toml.map? Toml.text?) .empty (Toml.find? "settings" entries)
  return { revision, unknownCompiler, options, settings }

/-- The configuration of a document. -/
def ofDocument? (s : String) : Option Config :=
  (Toml.parse? s).bind ofEntries?

/-- The document of a configuration: all three tables, also the empty ones. -/
def document (c : Config) : String :=
  let line (key value : String) : String := Toml.Writer.assignment key value
  let choice (key : String) (name : Option String) : String :=
    match name with
    | some name => line key (Toml.Writer.string name)
    | none => ""
  Toml.Writer.header "resolve" ++
    choice "revision" (c.revision.map Revision.name) ++
    choice "unknown-compiler" (c.unknownCompiler.map UnknownCompilerPolicy.name) ++
    "\n" ++ Toml.Writer.header "options" ++
    String.join (c.options.entries.map fun e => line e.1 (Toml.Writer.boolean e.2)) ++
    "\n" ++ Toml.Writer.header "settings" ++
    String.join (c.settings.entries.map fun e => line e.1 (Toml.Writer.string e.2))

end Config

end RecipeResolver
