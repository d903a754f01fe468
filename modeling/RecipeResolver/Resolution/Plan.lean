import RecipeResolver.Digest.Fingerprint
import RecipeResolver.Resolution.Basic

/-!
# Build plans

What a build driver is asked to do for a resolution. The cache key of a plan is a hash of everything
that shapes the build; of the steps it knows only whether tests run.
-/

namespace RecipeResolver

/-- A step of a build. -/
inductive BuildStep where
  | configure
  | build
  | test
  | install
  deriving DecidableEq, Repr

namespace BuildStep

/-- The name of a step. -/
def name : BuildStep → String
  | .configure => "configure"
  | .build => "build"
  | .test => "test"
  | .install => "install"

end BuildStep

/-- What a build driver is asked to do. -/
structure Plan where
  /-- The reference of the package that is built. -/
  package : String
  requirements : List PackageRef
  overrides : List OptionOverride
  defines : List String
  standard : Option Standard
  /-- The variables of the build with their values, in the order of declaration. -/
  cacheVariables : List (String × String)
  steps : List BuildStep
  deriving DecidableEq, Repr

namespace Plan

/-- The system on which tests are not run. -/
def untestedSystem : String := "Windows"

/-- The steps of a build for an operating system. -/
def stepsFor (os : Option String) : List BuildStep :=
  if os = some untestedSystem then [.configure, .build, .install]
  else [.configure, .build, .test, .install]

/-- The value of a build variable. -/
def switchText (b : Bool) : String :=
  if b then "ON" else "OFF"

/-- The plan for a resolution of a schema. -/
def ofResolution (schema : Schema) (r : Resolution) (os : Option String) : Plan where
  package := r.package.reference
  requirements := r.requirements
  overrides := r.overrides
  defines := r.defines
  standard := r.standard
  cacheVariables := schema.cacheVariables.map fun v =>
    (v.name, switchText (r.features.isEnabled v.feature))
  steps := stepsFor os

/-- Whether the build runs tests. -/
def runsTests (p : Plan) : Bool :=
  p.steps.contains .test

/-- Feeds an override. -/
def feedOverride (f : Fingerprint) (o : OptionOverride) : Fingerprint :=
  ((f.addText o.package).addText o.option).addTruth o.value

/-- Feeds a build variable. -/
def feedVariable (f : Fingerprint) (v : String × String) : Fingerprint :=
  (f.addText v.1).addText v.2

/-- What is hashed for the cache key. -/
def keyMaterial (p : Plan) : Fingerprint :=
  let f := Fingerprint.empty.addText p.package
  let f := f.addTexts (p.requirements.map (·.name))
  let f := f.addTexts (p.requirements.map (·.version))
  let f := p.overrides.foldl feedOverride f
  let f := f.addTexts p.defines
  let f :=
    match p.standard with
    | some standard => f.addText standard.digits
    | none => f
  let f := p.cacheVariables.foldl feedVariable f
  f.addTruth p.runsTests

/-- The key by which a driver finds a build that it can use again. -/
def cacheKey (p : Plan) : String :=
  p.keyMaterial.finishShort

/-! ## The plan as text -/

/-- A titled section, which is left out if it is empty. -/
def titled (title : String) (entries : List String) : List String :=
  if entries.isEmpty then [] else (title ++ ":\n") :: entries.map fun e => "  " ++ e ++ "\n"

/-- The lines for a person. -/
def lines (p : Plan) : List String :=
  [s!"# Build plan for `{p.package}`\n", "\n", "requires:\n"] ++
    p.requirements.map (fun r => "  " ++ r.text ++ "\n") ++
    titled "dependency options" (p.overrides.map (·.text)) ++
    titled "cache variables" (p.cacheVariables.map fun v => "-D" ++ v.1 ++ "=" ++ v.2) ++
    titled "defines" p.defines ++
    (match p.standard with
      | some standard => ["standard: " ++ standard.text ++ "\n"]
      | none => []) ++
    ["steps: " ++ " -> ".intercalate (p.steps.map (·.name)) ++ "\n",
      "cache key: " ++ p.cacheKey ++ "\n"]

end Plan

end RecipeResolver
