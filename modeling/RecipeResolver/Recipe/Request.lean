import RecipeResolver.Config.Store
import RecipeResolver.Recipe.Shipped
import RecipeResolver.Resolution.Handoff
import RecipeResolver.Resolution.Pass

/-!
# Requests

A request is everything that a resolution depends on. `Request.validate` checks its toolchain,
`Request.resolve` resolves it, and `Request.run` hands the plan to a build driver and, when the
driver has succeeded, the metadata to a registry.
-/

namespace RecipeResolver

/-- What is to be resolved. -/
structure Request where
  revision : Revision
  /-- The folder with the recipe and its version file. -/
  recipeFolder : String
  /-- Option values by default; those that the revision does not declare are passed over. -/
  defaults : List (String × Bool) := []
  /-- Option values that were asked for, in order. -/
  options : List (String × Bool) := []
  settings : Settings := .empty
  policy : UnknownCompilerPolicy := .warn

/-- What is known about a request whose toolchain was accepted. -/
structure ValidationReport where
  revision : Revision
  toolchain : Toolchain
  features : NormalizedFlags
  warnings : List Diagnostic

namespace Request

/-- A request for the latest revision without any options. -/
def forFolder (recipeFolder : String) : Request :=
  { revision := .latest, recipeFolder }

/-- A request with the defaults of a configuration. -/
def ofConfig (c : Config) (recipeFolder : String) : Except Failure Request := do
  return {
    revision := c.revision.getD .latest
    recipeFolder
    defaults := c.options.entries
    settings := ← c.profile
    policy := c.unknownCompiler.getD .warn }

/-- The steps of a request can fail and are told in the journal. -/
abbrev Step := Logged Failure

/-- Fails with a cause of its own. -/
def orFail {ε α : Type} (cause : ε → Cause) (r : Except ε α) : Step α :=
  Logged.lift (r.mapError fun e => .of (cause e))

/-- The toolchain of the settings. -/
def toolchainStep (r : Request) : Step Toolchain := do
  Logged.say <| match r.settings.visualStudio? with
    | some (toolset, release) =>
      [.debug s!"msvc {toolset} is Visual Studio {release.major.toNat}"]
    | none => []
  orFail .setting r.settings.toolchain

/-- Sets a flag by default, unless the revision does not declare it. -/
def applyDefault (p : OpenPass) (entry : String × Bool) : Step OpenPass :=
  if p.schema.declares entry.1 then orFail .option (p.set entry.1 entry.2)
  else do
    Logged.say [.debug
      (s!"ignoring configured option `{entry.1}`, not declared by revision " ++
        p.schema.revision.name)]
    return p

/-- Sets a flag that was asked for. -/
def applyOption (p : OpenPass) (entry : String × Bool) : Step OpenPass :=
  orFail .option (p.set entry.1 entry.2)

/-- Goes through a pass up to the acceptance of the toolchain. -/
def validatedPass (r : Request) (files : FileTree) : Step ValidatedPass := do
  let schema := r.revision.schema
  let identity ← Logged.lift (schema.identify files r.recipeFolder)
  let toolchain ← r.toolchainStep
  let standard ← orFail .setting r.settings.standard
  let pass := OpenPass.start schema identity
  Logged.say pass.startEvents
  let pass ← r.defaults.foldlM applyDefault pass
  let pass ← r.options.foldlM applyOption pass
  Logged.say pass.normalizeEvents
  let pass := pass.normalize
  Logged.say (pass.validateEvents toolchain standard r.policy)
  orFail .compatibility (pass.validate toolchain standard r.policy)

/-- Checks the toolchain only. -/
def validate (r : Request) (files : FileTree) : Step ValidationReport := do
  let pass ← r.validatedPass files
  let toolchain ← r.toolchainStep
  return { revision := r.revision, toolchain, features := pass.flags, warnings := pass.warnings }

/-- Resolves the request. -/
def resolve (r : Request) (files : FileTree) : Step Resolution := do
  let pass ← r.validatedPass files
  Logged.say pass.resolveEvents
  return pass.resolve

/-- The plan for a resolution of the request. -/
def plan (r : Request) (resolution : Resolution) : Plan :=
  .ofResolution r.revision.schema resolution r.settings.os

/-- Hands a resolution to the driver and then to the registry. -/
def handOver {σ : Type} (driver : Recipient σ Plan) (registry : Recipient σ PackageMetadata)
    (plan : Plan) (resolution : Resolution) (state : σ) : σ × Except Failure Resolution :=
  match driver plan state with
  | (state, .error f) => (state, .error (f.within (.driving plan.package)))
  | (state, .ok ()) =>
    match registry resolution.metadata state with
    | (state, .error f) => (state, .error (f.within (.publishing plan.package)))
    | (state, .ok ()) => (state, .ok resolution)

/-- Resolves the request and hands the result over. Nobody is handed anything unless the request
resolves. -/
def run {σ : Type} (r : Request) (files : FileTree) (driver : Recipient σ Plan)
    (registry : Recipient σ PackageMetadata) (state : σ) : σ × Step Resolution :=
  let resolved := r.resolve files
  match resolved.result with
  | .error _ => (state, resolved)
  | .ok resolution =>
    let (state, answer) := handOver driver registry (r.plan resolution) resolution state
    (state, ⟨resolved.events, answer⟩)

end Request

end RecipeResolver
