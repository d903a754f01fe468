import RecipeResolver.CommandLine.Arguments
import RecipeResolver.Recipe.Request

/-!
# Commands

What each command of the program does. `CommandLine.execute` is the whole program as a function:
from the arguments, the environment and the files to the exit code, the two output streams and the
files afterwards.
-/

namespace RecipeResolver.CommandLine

/-- What the program sees of the system it runs on. -/
structure Environment where
  files : FileTree
  /-- The home folder of the user. -/
  home : Option String
  /-- The revision to use when the command line names none. -/
  revision : Option String

/-- What the program leaves behind. -/
structure Execution where
  exitCode : Nat
  stdout : String
  stderr : String
  files : FileTree

/-- What a command leaves behind: its output, its journal and the files. -/
structure Outcome where
  stdout : String
  events : List Event
  failure : Option Failure
  files : FileTree

/-! ## Configuration -/

/-- The path of the global configuration. -/
def globalConfig (e : Environment) : String :=
  match e.home with
  | some home => Paths.join home Config.fileName
  | none => ""

/-- The path of the configuration of the recipe's project. -/
def projectConfig (c : Common) : String :=
  Paths.join c.recipeFolder Config.fileName

/-- The configuration of both files. -/
def config (e : Environment) (c : Common) : Config :=
  .layered e.files (globalConfig e) (projectConfig c)

/-- What the journal says about the two files. -/
def configEvents (e : Environment) (c : Common) : List Event :=
  Config.layeredEvents e.files (globalConfig e) (projectConfig c)

/-- The revision of the command line, or else of the configuration, or else the latest. -/
def revision (config : Config) (c : Common) : Revision :=
  (c.revision.or config.revision).getD .latest

/-- Adds an option of the command line to a request. -/
def addOption (r : Request) (input : String) : Except Failure Request :=
  match parseAssignment input with
  | .ok entry => .ok { r with options := r.options ++ [entry] }
  | .error e => .error (.of (.option e))

/-- Adds a setting of the command line to a request. -/
def addSetting (r : Request) (input : String) : Except Failure Request :=
  match r.settings.assign input with
  | .ok settings => .ok { r with settings }
  | .error e => .error (.of (.setting e))

/-- The request of a command line: what the configuration says, and over it what the command line
says. -/
def requestOf (config : Config) (c : Common) (a : RecipeArguments) : Except Failure Request := do
  let r ← Request.ofConfig config c.recipeFolder
  let r :=
    { r with
      revision := c.revision.getD r.revision
      policy := c.unknownCompiler.getD r.policy }
  let r ← a.options.foldlM addOption r
  a.settings.foldlM addSetting r

/-- The request of a command line, with what the journal says about it. -/
def request (e : Environment) (c : Common) (a : RecipeArguments) : Request.Step Request := do
  Logged.say (configEvents e c)
  let r ← Logged.lift (requestOf (config e c) c a)
  Logged.say [.debug s!"resolving revision {r.revision.name} from {r.recipeFolder}"]
  return r

/-! ## Output -/

/-- A line with a title and entries. -/
def titled (title : String) (entries : List String) : String :=
  title ++ ": " ++ ", ".intercalate entries ++ "\n"

/-- Entries on lines of their own under a title. -/
def block (title : String) (entries : List String) : String :=
  title ++ ":\n" ++ String.join (entries.map fun e => "  " ++ e ++ "\n")

/-- A block that is left out if it has no entries. -/
def blockIfAny (title : String) (entries : List String) : String :=
  if entries.isEmpty then "" else block title entries

/-- A text filled with blanks to a width. -/
def padded (width : Nat) (s : String) : String :=
  s ++ String.ofList (List.replicate (width - s.toList.length) ' ')

/-- A resolution for a person. -/
def resolutionText (r : Resolution) : String :=
  s!"{r.package.reference} (revision {r.revision.name})\n" ++
    titled "settings" r.package.settings ++
    titled "features" (if r.features.enabled.isEmpty then ["none"] else r.features.enabled) ++
    block "requires" (r.requirements.map (·.text)) ++
    blockIfAny "dependency options" (r.overrides.map (·.text)) ++
    blockIfAny "defines" r.defines ++
    titled "targets" r.metadata.aliases ++
    s!"fingerprint: {r.fingerprint}\n"

/-- A validation report for a person. -/
def reportText (r : ValidationReport) : String :=
  s!"{r.toolchain.text} is compatible with revision {r.revision.name}\n" ++
    (if r.features.enabled.isEmpty then "" else titled "features" r.features.enabled) ++
    (if r.warnings.isEmpty then "" else s!"{r.warnings.length} warning(s) emitted\n")

/-- The options of a revision for a person. -/
def optionsText (s : Schema) : String :=
  s!"{libraryName} revision {s.revision.name}\n" ++
    titled "settings" Identity.declaredSettings ++
    titled "minimum compilers"
      (s.minimumVersions.entries.map fun (family, version) =>
        s!"{family.name} {version.major.toNat}") ++
    (if s.features.isEmpty then s!"revision {s.revision.name} declares no options\n"
    else
      block s!"options for revision {s.revision.name}"
          (s.features.map fun d =>
            padded 22 d.name ++ " " ++ padded 6 (truthText d.byDefault) ++ " " ++ d.description) ++
        blockIfAny "implications" (s.implications.map (·.text)))

/-! ## Commands -/

/-- The outcome of a command that writes a text and changes no files. -/
def outcome {α : Type} (e : Environment) (step : Request.Step α) (text : α → String) : Outcome :=
  match step.result with
  | .ok a => { stdout := text a, events := step.events, failure := none, files := e.files }
  | .error f => { stdout := "", events := step.events, failure := some f, files := e.files }

/-- Resolves, and shows the resolution. -/
def resolveCommand (e : Environment) (c : Common) (a : RecipeArguments) (json : Bool) : Outcome :=
  outcome e (do (← request e c a).resolve e.files) fun r =>
    if json then r.toJson.pretty ++ "\n" else resolutionText r

/-- Checks the toolchain, and shows the report. -/
def validateCommand (e : Environment) (c : Common) (a : RecipeArguments) : Outcome :=
  outcome e (do (← request e c a).validate e.files) reportText

/-- Resolves, and shows the metadata. -/
def metadataCommand (e : Environment) (c : Common) (a : RecipeArguments) : Outcome :=
  outcome e (do (← request e c a).resolve e.files) fun r => r.metadata.toJson.pretty ++ "\n"

/-- Shows the options. The configuration is read only where the command line names no revision. -/
def optionsCommand (e : Environment) (c : Common) : Outcome where
  stdout := optionsText (revision (config e c) c).schema
  events := if c.revision.isSome then [] else configEvents e c
  failure := none
  files := e.files

/-- Where a plan and metadata are written to. -/
structure PlanSinks where
  plan : Sink
  metadata : Sink

/-- The driver that writes plans to the first of two sinks. -/
def planDriver (json : Bool) : Recipient PlanSinks Plan := fun plan sinks =>
  let (sink, answer) := planWriter json plan sinks.plan
  ({ sinks with plan := sink }, answer)

/-- The registry that writes metadata to the second of two sinks. -/
def planRegistry : Recipient PlanSinks PackageMetadata := fun metadata sinks =>
  let (sink, answer) := metadataWriter metadata sinks.metadata
  ({ sinks with metadata := sink }, answer)

/-- The text of what a sink holds. -/
def sinkText (s : Sink) : String :=
  (String.fromUTF8? ⟨s.held.toArray⟩).getD ""

/-- Makes the file for the metadata empty, if there is to be one. -/
def emptyTarget (files : FileTree) : Option String → Except Failure FileTree
  | none => .ok files
  | some path =>
    match files.write path .empty with
    | .ok files => .ok files
    | .error e => .error ⟨[.creating path], .file e⟩

/-- Puts the metadata into its file, if there is to be one. -/
def fillTarget (files : FileTree) (content : List UInt8) : Option String → FileTree
  | none => files
  | some path => (files.write path ⟨content.toArray⟩).toOption.getD files

/-- What the journal says when the metadata is in its file. -/
def targetEvents : Option String → List Event
  | none => []
  | some path => [.info s!"wrote package metadata to {path}"]

/-- Resolves, and hands the plan to the driver that shows it on a standard output, which may fill up.
The file for the metadata is made empty before anything else is done with the request. -/
def planCommandTo (stdout : Sink) (e : Environment) (c : Common) (a : RecipeArguments) (json : Bool)
    (metadataOut : Option String) : Outcome :=
  let requested := request e c a
  match requested.result with
  | .error f => { stdout := "", events := requested.events, failure := some f, files := e.files }
  | .ok r =>
    match emptyTarget e.files metadataOut with
    | .error f => { stdout := "", events := requested.events, failure := some f, files := e.files }
    | .ok files =>
      let (sinks, ran) :=
        r.run files (planDriver json) planRegistry { plan := stdout, metadata := .unlimited }
      let stdout := sinkText sinks.plan
      let events := requested.events ++ ran.events
      match ran.result with
      | .error f => { stdout, events, failure := some f, files }
      | .ok _ =>
        { stdout, events := events ++ targetEvents metadataOut, failure := none
          files := fillTarget files sinks.metadata.held metadataOut }

/-- Resolves, and shows the plan. -/
def planCommand : Environment → Common → RecipeArguments → Bool → Option String → Outcome :=
  planCommandTo .unlimited

/-- The outcome of a command. -/
def commandOutcome (e : Environment) (c : Common) : Command → Outcome
  | .resolve recipe json => resolveCommand e c recipe json
  | .validate recipe => validateCommand e c recipe
  | .options => optionsCommand e c
  | .plan recipe json metadataOut => planCommand e c recipe json metadataOut
  | .metadata recipe => metadataCommand e c recipe

/-! ## The program -/

/-- Whether an event is told. -/
def isTold (verbose : Bool) (event : Event) : Bool :=
  verbose || event.level != .debug

/-- The line that tells the version of the program. -/
def versionText : String := "quay 0.1.0\n"

/-- Runs the program. A command line that cannot be understood ends it with code 2, a failure with
code 1. -/
def execute (e : Environment) (args : List String) : Execution :=
  match parse args e.revision with
  | .misuse => { exitCode := 2, stdout := "", stderr := "", files := e.files }
  | .version => { exitCode := 0, stdout := versionText, stderr := "", files := e.files }
  | .command common command =>
    let o := commandOutcome e common command
    let told := String.join ((o.events.filter (isTold common.verbose)).map Event.line)
    { exitCode := if o.failure.isSome then 1 else 0
      stdout := o.stdout
      stderr := told ++ ((o.failure.map Failure.shown).getD "")
      files := o.files }

end RecipeResolver.CommandLine
