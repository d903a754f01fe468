import RecipeResolver.Profile.Compatibility
import RecipeResolver.Recipe.Revision
import RecipeResolver.Text.Cut

/-!
# Arguments of the command line

A command line names a command. Some options belong to every command and may stand before or after
its name; each of them may stand once in either place, and the later place counts. The others
follow the name of the command they belong to. `CommandLine.parse` reads the whole line, and
refuses it at the first argument that does not fit.
-/

namespace RecipeResolver.CommandLine

/-- An option of the command line. -/
inductive Switch where
  | verbose
  | noColour
  | revision
  | recipeFolder
  | unknownCompiler
  | version
  | option
  | setting
  | json
  | metadataOut
  deriving DecidableEq, Repr

namespace Switch

/-- The long name. -/
def long : Switch → String
  | .verbose => "verbose"
  | .noColour => "no-color"
  | .revision => "revision"
  | .recipeFolder => "recipe-dir"
  | .unknownCompiler => "unknown-compiler"
  | .version => "version"
  | .option => "option"
  | .setting => "setting"
  | .json => "json"
  | .metadataOut => "metadata-out"

/-- The short name, if there is one. -/
def short? : Switch → Option Char
  | .verbose => some 'v'
  | .version => some 'V'
  | .option => some 'o'
  | .setting => some 's'
  | _ => none

/-- Whether a value belongs to the option. -/
def takesValue : Switch → Bool
  | .verbose | .noColour | .version | .json => false
  | _ => true

/-- Whether the option may stand more than once in one place. -/
def repeats : Switch → Bool
  | .option | .setting => true
  | _ => false

/-- Whether a value can be meant by the option. Folders and files have names. -/
def accepts (s : Switch) (value : String) : Bool :=
  match s with
  | .revision => (Revision.parse? value).isSome
  | .unknownCompiler => (UnknownCompilerPolicy.parse? value).isSome
  | .recipeFolder | .metadataOut => !value.isEmpty
  | _ => true

end Switch

/-- A name of a command. -/
inductive CommandName where
  | resolve
  | validate
  | options
  | plan
  | metadata
  deriving DecidableEq, Repr

namespace CommandName

/-- Every command. -/
def all : List CommandName := [.resolve, .validate, .options, .plan, .metadata]

/-- The written name. -/
def text : CommandName → String
  | .resolve => "resolve"
  | .validate => "validate"
  | .options => "options"
  | .plan => "plan"
  | .metadata => "metadata"

/-- The command of exactly this name. -/
def ofText? (s : String) : Option CommandName :=
  all.find? fun c => c.text == s

end CommandName

/-- The options of every command. -/
def commonSwitches : List Switch :=
  [.verbose, .noColour, .revision, .recipeFolder, .unknownCompiler]

/-- The options before the name of a command. -/
def leadingSwitches : List Switch := .version :: commonSwitches

/-- The options after the name of a command. -/
def switchesOf : CommandName → List Switch
  | .resolve => [.option, .setting, .json] ++ commonSwitches
  | .validate => [.option, .setting] ++ commonSwitches
  | .options => commonSwitches
  | .plan => [.option, .setting, .json, .metadataOut] ++ commonSwitches
  | .metadata => [.option, .setting] ++ commonSwitches

/-! ## One place of options -/

/-- The options of one place with their values, in order; an option without a value has an empty
one. -/
abbrev Matches := List (Switch × String)

namespace Matches

/-- Whether an option was given. -/
def has (m : Matches) (s : Switch) : Bool :=
  m.any fun e => e.1 == s

/-- The value of an option. -/
def value? (m : Matches) (s : Switch) : Option String :=
  (m.find? fun e => e.1 == s).map Prod.snd

/-- The values of an option that may be repeated. -/
def values (m : Matches) (s : Switch) : List String :=
  (m.filter fun e => e.1 == s).map Prod.snd

/-- Adds an option, unless it stands twice or its value does not fit. -/
def add (m : Matches) (s : Switch) (value : String) : Option Matches :=
  if !s.repeats && m.has s || !s.accepts value then none else some (m ++ [(s, value)])

end Matches

/-- Whether an argument can be the value of the option before it; what begins with a hyphen is
another option, but for the hyphen alone. -/
def isValue (arg : String) : Bool :=
  arg == "-" || !arg.startsWith "-"

/-- Reads short names in a row. An option with a value takes the rest of the argument, without an
equals sign in front, or else the next argument, for which it is handed back. Once the version is
asked for, what follows is not looked at. -/
def readShort (allowed : List Switch) (m : Matches) :
    List Char → Option (Matches × Option Switch)
  | [] => some (m, none)
  | c :: rest => do
    let s ← allowed.find? fun s => s.short? == some c
    if s.takesValue then
      match rest with
      | [] => return (m, some s)
      | '=' :: value => return (← m.add s (String.ofList value), none)
      | value => return (← m.add s (String.ofList value), none)
    else if s = .version then return (← m.add s "", none)
    else readShort allowed (← m.add s "") rest

/-- Reads a long name, after its hyphens. -/
def readLong (allowed : List Switch) (m : Matches) (arg : String) :
    Option (Matches × Option Switch) := do
  let (name, value?) :=
    match Text.cut? '=' arg with
    | some (name, value) => (name, some value)
    | none => (arg, none)
  let s ← allowed.find? fun s => s.long == name
  match s.takesValue, value? with
  | true, none => return (m, some s)
  | true, some value => return (← m.add s value, none)
  | false, none => return (← m.add s "", none)
  | false, some _ => none

/-- How the reading of one place ends. -/
inductive Stop where
  /-- The line is at its end. -/
  | finished (m : Matches)
  /-- An argument that is no option, and those after it. -/
  | word (m : Matches) (word : String) (rest : List String)
  /-- The version was asked for. -/
  | version
  | refused

/-- Reads the options of one place. Two hyphens end the options; nothing may follow them. -/
def readPlace (allowed : List Switch) (m : Matches) : List String → Stop
  | [] => .finished m
  | arg :: rest =>
    if arg = "--" then (if rest.isEmpty then .finished m else .refused)
    else if isValue arg then .word m arg rest
    else
      let step :=
        match arg.toList with
        | '-' :: '-' :: name => readLong allowed m (String.ofList name)
        | _ :: names => readShort allowed m names
        | [] => none
      match step with
      | none => .refused
      | some (m, none) =>
        if m.has .version then .version else readPlace allowed m rest
      | some (m, some s) =>
        match rest with
        | [] => .refused
        | value :: rest =>
          if isValue value then
            match m.add s value with
            | some m => readPlace allowed m rest
            | none => .refused
          else .refused

/-! ## The whole line -/

/-- The options that belong to every command. -/
structure Common where
  verbose : Bool
  revision : Option Revision
  recipeFolder : String
  unknownCompiler : Option UnknownCompilerPolicy
  deriving DecidableEq, Repr

/-- The options that say what is to be resolved. -/
structure RecipeArguments where
  options : List String
  settings : List String
  deriving DecidableEq, Repr

/-- A command with its own options. -/
inductive Command where
  | resolve (recipe : RecipeArguments) (json : Bool)
  | validate (recipe : RecipeArguments)
  | options
  | plan (recipe : RecipeArguments) (json : Bool) (metadataOut : Option String)
  | metadata (recipe : RecipeArguments)
  deriving DecidableEq, Repr

/-- What a command line asks for. -/
inductive Invocation where
  | version
  | command (common : Common) (command : Command)
  /-- The line cannot be understood. -/
  | misuse
  deriving DecidableEq, Repr

/-- The folder in which the recipe is sought by default. -/
def defaultFolder : String := "."

/-- The value of an option that may stand in two places; the later one counts. -/
def valueIn (leading trailing : Matches) (s : Switch) : Option String :=
  (trailing.value? s).or (leading.value? s)

/-- The options that belong to every command, from both places. `fallback` is the revision of the
environment. -/
def commonOf (leading trailing : Matches) (fallback : Option String) : Common where
  verbose := leading.has .verbose || trailing.has .verbose
  revision := ((valueIn leading trailing .revision).or fallback).bind Revision.parse?
  recipeFolder := (valueIn leading trailing .recipeFolder).getD defaultFolder
  unknownCompiler :=
    (valueIn leading trailing .unknownCompiler).bind UnknownCompilerPolicy.parse?

/-- The options that say what is to be resolved. -/
def recipeOf (m : Matches) : RecipeArguments where
  options := m.values .option
  settings := m.values .setting

/-- A command with the options after its name. -/
def commandOf (name : CommandName) (m : Matches) : Command :=
  match name with
  | .resolve => .resolve (recipeOf m) (m.has .json)
  | .validate => .validate (recipeOf m)
  | .options => .options
  | .plan => .plan (recipeOf m) (m.has .json) (m.value? .metadataOut)
  | .metadata => .metadata (recipeOf m)

/-- Whether the revision of the environment can be used. It is looked at for every place that has no
revision of its own. -/
def fallbackFits (leading trailing : Matches) (fallback : Option String) : Bool :=
  match fallback with
  | none => true
  | some value =>
    leading.has .revision && trailing.has .revision || Switch.revision.accepts value

/-- Reads a command line. `fallback` is the revision of the environment. -/
def parse (args : List String) (fallback : Option String) : Invocation :=
  match readPlace leadingSwitches [] args with
  | .version => .version
  | .word leading word rest =>
    match CommandName.ofText? word with
    | none => .misuse
    | some name =>
      match readPlace (switchesOf name) [] rest with
      | .finished trailing =>
        if fallbackFits leading trailing fallback then
          .command (commonOf leading trailing fallback) (commandOf name trailing)
        else .misuse
      | _ => .misuse
  | _ => .misuse

end RecipeResolver.CommandLine
