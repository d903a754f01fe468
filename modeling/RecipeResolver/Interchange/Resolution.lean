import RecipeResolver.Digest.Fingerprint
import RecipeResolver.Interchange.Package
import RecipeResolver.Resolution.Plan

/-!
# JSON forms of resolutions and plans

The compact form of a resolution is what its fingerprint is the hash of.
-/

namespace RecipeResolver

namespace Resolution

/-- An object with all fields. -/
def toJson (r : Resolution) : Json :=
  .object
    [("revision", r.revision.toJson), ("package", r.package.toJson),
      ("features", r.features.toJson),
      ("requirements", .array (r.requirements.map PackageRef.toJson)),
      ("option_overrides", .array (r.overrides.map OptionOverride.toJson)),
      ("defines", .ofTexts r.defines), ("cppstd", .ofOption Standard.toJson r.standard),
      ("metadata", r.metadata.toJson)]

/-- The text that the fingerprint is the hash of. -/
def canonicalText (r : Resolution) : String :=
  r.toJson.compact

/-- The hash of the whole resolution. -/
def fingerprint (r : Resolution) : String :=
  Sha256.hexDigest (utf8 r.canonicalText)

end Resolution

namespace Plan

/-- An object with all fields. -/
def toJson (p : Plan) : Json :=
  .object
    [("package", .string p.package),
      ("requirements", .array (p.requirements.map PackageRef.toJson)),
      ("option_overrides", .array (p.overrides.map OptionOverride.toJson)),
      ("defines", .ofTexts p.defines), ("cppstd", .ofOption Standard.toJson p.standard),
      ("cache_variables", .array (p.cacheVariables.map fun v => .ofTexts [v.1, v.2])),
      ("steps", .array (p.steps.map fun step => .string step.name))]

end Plan

end RecipeResolver
