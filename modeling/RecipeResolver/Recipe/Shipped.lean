import RecipeResolver.Recipe.Schema

/-!
# The shipped revisions

The schemas of the three revisions. The first one has no options; the second one can log to a cloud
service; the third one can also write JSON, which the cloud service needs, and has its version from
a file.
-/

namespace RecipeResolver

namespace Shipped

/-- The flag of the cloud service. -/
def withAws : String := "with_aws"

/-- The flag of the JSON sink. -/
def withJson : String := "with_json_formatting"

/-- The oldest compilers that compile the library. -/
def minimumVersions : MinimumVersions :=
  ⟨[(.gcc, .release 8 0 0),
    (.clang, .release 9 0 0),
    (.appleClang, .release 11 0 0),
    (.msvc, .release 16 0 0)]⟩

/-- The flag of the cloud service as it is declared. -/
def awsFeature : FlagDeclaration :=
  { name := withAws, byDefault := false, description := "CloudWatch sink through the AWS SDK" }

/-- The flag of the JSON sink as it is declared. -/
def jsonFeature : FlagDeclaration :=
  { name := withJson, byDefault := false, description := "JSON console sink" }

/-- What every revision requires. -/
def baseRequirements : List (Conditional PackageRef) :=
  [.always { name := "catch2", version := "3.1.0" },
    .always { name := "fmt", version := "9.0.0" },
    .always { name := "trompeloeil", version := "42" }]

/-- The client library of the cloud service. -/
def awsRequirement : Conditional PackageRef :=
  .whenOn withAws { name := "aws-sdk-cpp", version := "1.9.234" }

/-- The JSON library. -/
def jsonRequirement : Conditional PackageRef :=
  .whenOn withJson { name := "nlohmann_json", version := "3.11.2" }

/-- The client library must be built with its logs client. -/
def awsOverride : Conditional OptionOverride :=
  .whenOn withAws { package := "aws-sdk-cpp", option := "logs", value := true }

/-- What the component links against in every revision. -/
def baseLink : Conditional String := .always "fmt::fmt"

/-- What the component links against for the cloud service. -/
def awsLink : Conditional String := .whenOn withAws "aws-sdk-cpp::monitoring"

/-- What the component links against for JSON. -/
def jsonLink : Conditional String := .whenOn withJson "nlohmann_json::nlohmann_json"

/-- What consumers must define for the cloud service. -/
def awsDefine : Conditional String := .whenOn withAws "OCTO_LOGGER_WITH_AWS"

/-- What consumers must define for JSON. -/
def jsonDefine : Conditional String := .whenOn withJson "OCTO_LOGGER_WITH_JSON_FORMATTING"

/-- The build variable of the cloud service. -/
def awsVariable : CacheVariable := { name := "WITH_AWS", feature := withAws }

/-- The build variable of the JSON sink. -/
def jsonVariable : CacheVariable := { name := "WITH_JSON_FORMATTING", feature := withJson }

end Shipped

open Shipped in
/-- The schema of a revision. -/
def Revision.schema : Revision → Schema
  | .v1 =>
    { revision := .v1
      versionSource := .literal "1.0.0"
      minimumVersions
      requirements := baseRequirements
      componentRequires := [baseLink] }
  | .v2 =>
    { revision := .v2
      versionSource := .literal "1.1.0"
      features := [awsFeature]
      minimumVersions
      requirements := baseRequirements ++ [awsRequirement]
      overrides := [awsOverride]
      componentRequires := [baseLink, awsLink]
      defines := [awsDefine]
      cacheVariables := [awsVariable] }
  | .v3 =>
    { revision := .v3
      versionSource := .file versionFile
      features := [awsFeature, jsonFeature]
      implications := [{ trigger := withAws, forced := withJson }]
      minimumVersions
      requirements := baseRequirements ++ [jsonRequirement, awsRequirement]
      overrides := [awsOverride]
      componentRequires := [baseLink, jsonLink, awsLink]
      defines := [jsonDefine, awsDefine]
      cacheVariables := [awsVariable, jsonVariable] }

/-- The declarations of every revision fit together. -/
theorem Revision.check_schema (r : Revision) : r.schema.check = .ok () := by
  cases r <;> rfl

end RecipeResolver
