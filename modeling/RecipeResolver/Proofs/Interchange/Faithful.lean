import RecipeResolver.Config.Basic
import RecipeResolver.Proofs.Digest.SelfDelimiting
import RecipeResolver.Proofs.Json.RoundTrips
import RecipeResolver.Proofs.Version.WrittenForm
import RecipeResolver.Resolution.Handoff

/-!
# What is encoded is decoded to what it was

For each type that is written as JSON the encoder and the decoder are given apart from each other,
field by field. Here they are put side by side: every type keeps the promise `RoundTrips`, records
because their fields do. So no name of a field, no spelling of a choice and no `null` is written one
way and looked for in another one.

The registry's copy is the pretty text with the end of a line behind it, and the compact text is
what is exchanged otherwise; a value is got back from either.
-/

namespace RecipeResolver

open Json (RoundTrips Plain)

/-! ## Texts, names and choices -/

theorem Json.roundTrips_ofTexts : RoundTrips Json.ofTexts (Json.list? Json.text?) :=
  RoundTrips.text.list

theorem Json.roundTrips_ofTextMap : RoundTrips Json.ofTextMap Json.textMap? :=
  RoundTrips.text.map fun _ => rfl

theorem Generator.ofName?_name (g : Generator) : ofName? g.name = some g := by
  cases g <;> rfl

theorem Json.roundTrips_ofNames : RoundTrips Json.ofNames Json.names? :=
  RoundTrips.text.map Generator.ofName?_name

theorem Revision.roundTrips : RoundTrips Revision.toJson Revision.ofJson? where
  plain r := .string r.name
  decodes r := by cases r <;> rfl

theorem UnknownCompilerPolicy.roundTrips :
    RoundTrips UnknownCompilerPolicy.toJson UnknownCompilerPolicy.ofJson? where
  plain p := .string p.name
  decodes p := by cases p <;> rfl

theorem Standard.roundTrips : RoundTrips Standard.toJson Standard.ofJson? where
  plain s := .string s.digits
  decodes s := by cases s <;> rfl

theorem Runtime.roundTrips : RoundTrips Runtime.toJson Runtime.ofJson? where
  plain r := .string r.words
  decodes r := by cases r <;> rfl

theorem CompilerFamily.roundTrips : RoundTrips CompilerFamily.toJson CompilerFamily.ofJson? where
  plain family := by
    cases family with
    | unknown name => exact .object (by simp [Plain.string])
    | _ => exact .string _
  decodes family := by cases family <;> rfl

theorem Version.roundTrips : RoundTrips Version.toJson Version.ofJson? where
  plain v := .string v.text
  decodes v := by
    unfold Version.ofJson? Version.toJson
    rw [Json.text?, Option.bind_some, v.parse?_text]

/-! ## Records -/

theorem Flag.roundTrips : RoundTrips Flag.toJson Flag.ofJson? := by
  refine .record (fun _ => rfl) (by decide) (fun f => ?_) (fun _ => rfl)
  simp [Plain.string, Plain.bool]

theorem PackageRef.roundTrips : RoundTrips PackageRef.toJson PackageRef.ofJson? := by
  refine .record (fun _ => rfl) (by decide) (fun r => ?_) (fun _ => rfl)
  simp [Plain.string]

theorem OptionOverride.roundTrips : RoundTrips OptionOverride.toJson OptionOverride.ofJson? := by
  refine .record (fun _ => rfl) (by decide) (fun o => ?_) (fun _ => rfl)
  simp [Plain.string, Plain.bool]

theorem Identity.roundTrips : RoundTrips Identity.toJson Identity.ofJson? := by
  refine .record (fun _ => rfl) (by decide) (fun i => ?_) (fun i => ?_)
  · simp [Plain.string, Json.roundTrips_ofTexts.plain]
  · simp [Json.required?, Json.text?, Json.roundTrips_ofTexts.decodes]

theorem Component.roundTrips : RoundTrips Component.toJson Component.ofJson? := by
  refine .record (fun _ => rfl) (by decide) (fun c => ?_) (fun c => ?_)
  · simp [Plain.string, Json.roundTrips_ofTexts.plain, Json.roundTrips_ofNames.plain,
      Json.roundTrips_ofTextMap.plain]
  · simp [Json.required?, Json.text?, Json.roundTrips_ofTexts.decodes,
      Json.roundTrips_ofNames.decodes, Json.roundTrips_ofTextMap.decodes]

theorem PackageMetadata.roundTrips :
    RoundTrips PackageMetadata.toJson PackageMetadata.ofJson? := by
  have hcomponents := Component.roundTrips.list
  refine .record (fun _ => rfl) (by decide) (fun m => ?_) (fun m => ?_)
  · simp [Plain.string, Json.roundTrips_ofTexts.plain, Json.roundTrips_ofNames.plain,
      Json.roundTrips_ofTextMap.plain, hcomponents.plain]
  · simp [Json.required?, Json.text?, Json.roundTrips_ofTexts.decodes,
      Json.roundTrips_ofNames.decodes, Json.roundTrips_ofTextMap.decodes, hcomponents.decodes]

theorem Toolchain.roundTrips : RoundTrips Toolchain.toJson Toolchain.ofJson? := by
  refine .record (fun _ => rfl) (by decide) (fun t => ?_) (fun t => ?_)
  · simp [CompilerFamily.roundTrips.plain, Version.roundTrips.plain,
      RoundTrips.text.plain_ofOption, Runtime.roundTrips.plain_ofOption]
  · simp [Json.required?, CompilerFamily.roundTrips.decodes, Version.roundTrips.decodes,
      RoundTrips.text.optional rfl, Runtime.roundTrips.optional rfl]

namespace Config

/-- The table of a configuration that holds its two choices. -/
def choicesToJson (choices : Option Revision × Option UnknownCompilerPolicy) : Json :=
  .object
    [("revision", .ofOption Revision.toJson choices.1),
      ("unknown-compiler", .ofOption UnknownCompilerPolicy.toJson choices.2)]

theorem choices_roundTrips : RoundTrips choicesToJson choicesOfJson? := by
  refine .record (fun _ => rfl) (by decide) (fun c => ?_) (fun c => ?_)
  · simp [Revision.roundTrips.plain_ofOption, UnknownCompilerPolicy.roundTrips.plain_ofOption]
  · simp [Revision.roundTrips.optional rfl, UnknownCompilerPolicy.roundTrips.optional rfl]

theorem roundTrips : RoundTrips Config.toJson Config.ofJson? := by
  -- three tables, each of which keeps the promise on its own
  have hoptions : RoundTrips
      (fun m : OrderedMap String Bool => .object (m.entries.map fun e => (e.1, .bool e.2)))
      (Json.map? some Json.bool?) := RoundTrips.truth.map fun _ => rfl
  refine .record (fun _ => rfl) (by decide) (fun c => ?_) (fun c => ?_)
  · have hchoices := choices_roundTrips.plain (c.revision, c.unknownCompiler)
    have hsettings := Json.roundTrips_ofTextMap.plain c.settings
    simp only [List.forall_mem_cons]
    exact ⟨hchoices, hoptions.plain c.options, hsettings, by simp⟩
  · have hchoices := choices_roundTrips.decodes (c.revision, c.unknownCompiler)
    have hsettings := Json.roundTrips_ofTextMap.decodes c.settings
    have hoption := hoptions.decodes c.options
    unfold choicesToJson at hchoices
    simp [Json.defaulted?, hchoices, hoption, hsettings]

end Config

/-! ## What is published -/

/-- What is written as JSON without a failure is the pretty text and the end of a line. -/
theorem writeJson_of_ok {doing : Circumstance} {j : Json} {sink : Sink}
    (h : (writeJson doing j sink).2 = .ok ()) :
    (writeJson doing j sink).1 = { sink with held := sink.held ++ utf8 (j.pretty ++ "\n") } := by
  unfold writeJson writePieces at h ⊢
  rw [Sink.writeAll_singleton] at h ⊢
  -- both writes went well, or there would have been a failure
  cases hvalue : sink.write j.pretty with
  | mk first outcome =>
    cases outcome with
    | error e =>
      rw [hvalue] at h
      cases h
    | ok =>
      have hfirst := Sink.write_of_ok (congrArg Prod.snd hvalue)
      rw [hvalue] at h hfirst
      dsimp only at h hfirst ⊢
      cases hend : first.write "\n" with
      | mk last outcome =>
        cases outcome with
        | error e =>
          rw [hend] at h
          cases h
        | ok =>
          have hlast := Sink.write_of_ok (congrArg Prod.snd hend)
          rw [hend] at hlast
          dsimp only at hlast ⊢
          rw [hlast, hfirst, utf8_append, List.append_assoc]

/-- The end of a line counts as a blank. -/
theorem blank_end : Json.Blank "\n".toList := by
  intro c hc
  rw [List.mem_singleton.1 hc]
  rfl

/-- Every type that is written as JSON is read back. Metadata that the registry's writer has written
in full, into whatever sink, is the pretty text with the end of a line, and this text is decoded to
the metadata; a sink without a limit always takes it. The compact text is decoded to what it was for
metadata and for every other type. -/
theorem encoded_values_are_decoded :
    (∀ (m : PackageMetadata) (sink : Sink), (metadataWriter m sink).2 = .ok () →
        (metadataWriter m sink).1.held = sink.held ++ utf8 (m.toJson.pretty ++ "\n")) ∧
      (∀ (m : PackageMetadata) (held : List UInt8), (metadataWriter m ⟨none, held⟩).2 = .ok ()) ∧
      (∀ m : PackageMetadata,
        (Json.parse? (m.toJson.pretty ++ "\n")).bind PackageMetadata.ofJson? = some m) ∧
      Json.Recovers PackageMetadata.toJson PackageMetadata.ofJson? ∧
      Json.Recovers Component.toJson Component.ofJson? ∧
      Json.Recovers PackageRef.toJson PackageRef.ofJson? ∧
      Json.Recovers OptionOverride.toJson OptionOverride.ofJson? ∧
      Json.Recovers Flag.toJson Flag.ofJson? ∧
      Json.Recovers Identity.toJson Identity.ofJson? ∧
      Json.Recovers CompilerFamily.toJson CompilerFamily.ofJson? ∧
      Json.Recovers Toolchain.toJson Toolchain.ofJson? ∧
      Json.Recovers Config.toJson Config.ofJson? := by
  refine ⟨fun m sink h => ?_, fun m held => rfl, fun m => ?_, PackageMetadata.roundTrips.recovers,
    Component.roundTrips.recovers, PackageRef.roundTrips.recovers,
    OptionOverride.roundTrips.recovers, Flag.roundTrips.recovers, Identity.roundTrips.recovers,
    CompilerFamily.roundTrips.recovers, Toolchain.roundTrips.recovers, Config.roundTrips.recovers⟩
  · exact congrArg Sink.held (writeJson_of_ok h)
  · exact PackageMetadata.roundTrips.pretty_append m blank_end

/-- Metadata with characters that are escaped, in a sink with little room. -/
theorem escaped_metadata_is_decoded :
    let m : PackageMetadata :=
      { name := "a \"b\"\n", defines := ["\\"], names := .ofList [(.pkgConfig, "ä")],
        filenames := .empty, properties := .empty, components := [] }
    let sink := Sink.upTo 200
    (metadataWriter m sink).2 = .ok () ∧
      (metadataWriter m sink).1.held = sink.held ++ utf8 (m.toJson.pretty ++ "\n") ∧
      (Json.parse? (m.toJson.pretty ++ "\n")).bind PackageMetadata.ofJson? = some m := by
  intro m sink
  have hwritten : (metadataWriter m sink).2 = .ok () := by decide +kernel
  exact ⟨hwritten, encoded_values_are_decoded.1 m sink hwritten,
    encoded_values_are_decoded.2.2.1 m⟩

end RecipeResolver
