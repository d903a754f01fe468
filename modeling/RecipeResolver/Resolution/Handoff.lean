import RecipeResolver.Files.Sink
import RecipeResolver.Interchange.Resolution

/-!
# Handing over

A plan goes to a build driver and metadata to a registry. The two that are shipped write what they
are given to a sink: plans as text or JSON, metadata as JSON. A sink that fills up makes them fail.
-/

namespace RecipeResolver

/-- Someone with a state `σ` who is handed values and may refuse them. -/
def Recipient (σ α : Type) : Type := α → σ → σ × Except Failure Unit

/-- Writes a text that comes in pieces and ends its last line. A failure within the text is reported
with what was being written. -/
def writePieces (doing : Circumstance) (pieces : List String) (sink : Sink) :
    Sink × Except Failure Unit :=
  match sink.writeAll pieces with
  | (sink, .error e) => (sink, .error ⟨[doing], .output e⟩)
  | (sink, .ok ()) =>
    match sink.write "\n" with
    | (sink, .error e) => (sink, .error (.of (.file e)))
    | (sink, .ok ()) => (sink, .ok ())

/-- Writes a value as JSON over several lines. -/
def writeJson (doing : Circumstance) (j : Json) : Sink → Sink × Except Failure Unit :=
  writePieces doing [j.pretty]

/-- The driver that writes plans for a person. -/
def textPlanWriter : Recipient Sink Plan := fun plan sink =>
  match sink.writeAll plan.lines with
  | (sink, .error e) => (sink, .error (.of (.file e)))
  | (sink, .ok ()) => (sink, .ok ())

/-- The driver that writes plans as JSON. -/
def jsonPlanWriter : Recipient Sink Plan := fun plan sink =>
  writeJson .writingPlan plan.toJson sink

/-- The driver that writes plans in either form. -/
def planWriter (json : Bool) : Recipient Sink Plan :=
  if json then jsonPlanWriter else textPlanWriter

/-- The registry that writes metadata as JSON. -/
def metadataWriter : Recipient Sink PackageMetadata := fun metadata sink =>
  writeJson .writingMetadata metadata.toJson sink

end RecipeResolver
