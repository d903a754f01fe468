import RecipeResolver.Json.Parser
import RecipeResolver.Main
import RecipeResolver.Proofs.Feature.Reachability
import RecipeResolver.Proofs.Recipe.Overrides
import RecipeResolver.Proofs.Recipe.Acceptance
import RecipeResolver.Proofs.Recipe.Consistency
import RecipeResolver.Proofs.Recipe.HandOver
import RecipeResolver.Proofs.Resolution.Requirements
import RecipeResolver.Proofs.Resolution.Coherence
import RecipeResolver.Proofs.Resolution.OverrideOrder
import RecipeResolver.Proofs.Digest.SelfDelimiting
import RecipeResolver.Proofs.Resolution.KeyMaterial
import RecipeResolver.Proofs.Recipe.ShippedKeys
import RecipeResolver.Proofs.Profile.Writes
import RecipeResolver.Proofs.Config.Overlay
import RecipeResolver.Proofs.CommandLine.Precedence
import RecipeResolver.Proofs.Recipe.Agreement
import RecipeResolver.Proofs.Recipe.ToolchainGate
import RecipeResolver.Proofs.Json.Layouts
import RecipeResolver.Proofs.Resolution.Growth
import RecipeResolver.Proofs.Interchange.CanonicalText
import RecipeResolver.Proofs.CommandLine.PlanTarget
import RecipeResolver.Proofs.Version.Precedence
import RecipeResolver.Proofs.Report.First
import RecipeResolver.Proofs.Profile.BrokenRules
import RecipeResolver.Proofs.Profile.Upgrades
import RecipeResolver.Proofs.Recipe.FirstFlaw
import RecipeResolver.Proofs.Profile.Edits
import RecipeResolver.Proofs.Recipe.VersionFiles
import RecipeResolver.Proofs.Recipe.References
import RecipeResolver.Proofs.Version.ShortForm
import RecipeResolver.Proofs.Profile.Description
import RecipeResolver.Proofs.Profile.Spellings
import RecipeResolver.Proofs.Config.Layering
import RecipeResolver.Proofs.Files.FullSinks
import RecipeResolver.Proofs.Resolution.Aliases
import RecipeResolver.Proofs.Feature.Arguments
import RecipeResolver.Proofs.Feature.Passes
import RecipeResolver.Proofs.Report.Colours
import RecipeResolver.Proofs.Digest.Additions
