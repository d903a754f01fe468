import RecipeResolver.Resolution.Basic

/-!
# Passes

A pass goes from open flags to a resolution in three steps: it is normalized, validated against a
toolchain, and resolved. Each state has a type of its own, so no step can be left out.
-/

namespace RecipeResolver

/-- The states of a pass. -/
inductive PassState where
  | created
  | normalized
  | validated
  | resolved
  | rejected
  deriving DecidableEq, Repr

namespace PassState

/-- The name of a state. -/
def name : PassState → String
  | .created => "created"
  | .normalized => "flags-normalized"
  | .validated => "validated"
  | .resolved => "resolved"
  | .rejected => "rejected"

end PassState

/-- A pass whose flags may still change. -/
structure OpenPass where
  schema : Schema
  identity : Identity
  flags : FlagSet

/-- A pass whose flags are closed under the implications. -/
structure NormalizedPass where
  schema : Schema
  identity : Identity
  flags : NormalizedFlags

/-- A pass whose toolchain was accepted. -/
structure ValidatedPass where
  schema : Schema
  identity : Identity
  flags : NormalizedFlags
  standard : Option Standard
  warnings : List Diagnostic

namespace OpenPass

/-- A pass with every flag at its default. -/
def start (schema : Schema) (identity : Identity) : OpenPass :=
  { schema, identity, flags := schema.defaultFlags }

/-- Sets a flag. -/
def set (p : OpenPass) (name : String) (value : Bool) : Except FlagError OpenPass :=
  match p.flags.set name value with
  | .ok flags => .ok { p with flags }
  | .error e => .error e

/-- Applies the implications. -/
def normalize (p : OpenPass) : NormalizedPass :=
  { schema := p.schema, identity := p.identity, flags := p.flags.normalize p.schema.implications }

/-- What the journal says when a pass starts. -/
def startEvents (p : OpenPass) : List Event :=
  [.debug (s!"pass for {p.identity.reference} (revision {p.schema.revision.name}) is " ++
    PassState.created.name)]

/-- What the journal says when the implications are applied. -/
def normalizeEvents (p : OpenPass) : List Event :=
  (closure p.schema.implications p.flags.flags).fired.map
      (fun r => .debug s!"`{r.trigger}` implies `{r.forced}`, enabling it") ++
    [.debug s!"pass is {PassState.normalized.name}"]

end OpenPass

namespace NormalizedPass

/-- Checks the toolchain. -/
def validate (p : NormalizedPass) (toolchain : Toolchain) (standard : Option Standard)
    (policy : UnknownCompilerPolicy) : Except CompatibilityError ValidatedPass :=
  match Compatibility.check p.schema.minimumVersions toolchain standard policy with
  | .ok warnings =>
    .ok { schema := p.schema, identity := p.identity, flags := p.flags, standard, warnings }
  | .error e => .error e

/-- What the journal says when the toolchain is checked. -/
def validateEvents (p : NormalizedPass) (toolchain : Toolchain) (standard : Option Standard)
    (policy : UnknownCompilerPolicy) : List Event :=
  Compatibility.events p.schema.minimumVersions toolchain standard policy ++
    match p.validate toolchain standard policy with
    | .ok _ => [.debug s!"pass is {PassState.validated.name}"]
    | .error e => [.debug (s!"pass is {PassState.rejected.name}: " ++ e.message)]

end NormalizedPass

namespace ValidatedPass

/-- The resolution of the pass. -/
def resolve (p : ValidatedPass) : Resolution :=
  RecipeResolver.resolve p.schema p.identity p.flags p.standard

/-- What the journal says when the pass is resolved. -/
def resolveEvents (p : ValidatedPass) : List Event :=
  p.resolve.events p.schema ++
    [.info
      (s!"resolved {p.resolve.package.reference} with {p.resolve.requirements.length} " ++
        "requirements")]

end ValidatedPass

end RecipeResolver
