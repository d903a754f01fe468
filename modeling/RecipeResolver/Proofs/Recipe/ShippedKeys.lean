import RecipeResolver.Proofs.Recipe.Acceptance
import RecipeResolver.Proofs.Recipe.HandOver
import RecipeResolver.Proofs.Resolution.KeyMaterial
import RecipeResolver.Proofs.Resolution.Requirements

/-!
# Cache keys of the shipped revisions

The version of a shipped package is any text, also one with NUL in it and with copies of whatever is
hashed behind it. So the terminators do not tell where it ends, but the material can be read from
its other end. Everything behind the version is made of a few fixed texts, and the letter `r` stands
in them exactly once, in the name of the third requirement: the last `r` of the material is that
one (`Plan.IsShipped.fed_eq`). In front of it there is only the package, and behind it a `j` tells
whether the JSON library is required and a `w` whether the client library of the cloud service is.

So plans that are handed to a driver have the same material only if they are equal, and the same key
only if they are equal or their materials collide (`Request.plan_eq_of_fed_eq`).
-/

namespace RecipeResolver

/-- Two materials that are different and have the same short hash. -/
def Fingerprint.Collide (f g : Fingerprint) : Prop :=
  f.fed ≠ g.fed ∧ f.finishShort = g.finishShort

namespace Plan

open Fingerprint

/-! ## Plans for the shipped revisions -/

/-- The flags of the third revision at these values. -/
def switches (json aws : Bool) : NormalizedFlags :=
  ⟨[⟨Shipped.withAws, aws, false⟩, ⟨Shipped.withJson, json, false⟩]⟩

/-- A plan that requires, forces and defines what the third revision does with its flags at these
values, and sets some of its variables. Plans for the other revisions are of this kind as well. -/
structure IsShipped (json aws : Bool) (p : Plan) : Prop where
  requirements : p.requirements = selected (switches json aws) Revision.v3.schema.requirements
  overrides : p.overrides = selected (switches json aws) Revision.v3.schema.overrides
  defines : p.defines = selected (switches json aws) Revision.v3.schema.defines
  cacheVariables : ∀ v ∈ p.cacheVariables,
    v.1 ∈ Revision.v3.schema.cacheVariables.map (·.name) ∧ ∃ on, v.2 = switchText on
  steps : ∃ os, p.steps = stepsFor os

theorem isEnabled_switches_withJson (json aws : Bool) :
    (switches json aws).isEnabled Shipped.withJson = json := by
  cases json <;> cases aws <;> decide

theorem isEnabled_switches_withAws (json aws : Bool) :
    (switches json aws).isEnabled Shipped.withAws = aws := by
  cases json <;> cases aws <;> decide

/-- Declarations that depend on no other flag are selected by the values of the two. -/
theorem selected_switches {α : Type} (flags : NormalizedFlags) {declarations : List (Conditional α)}
    (h : ∀ d ∈ declarations, d.condition ∈
      [.always, .feature Shipped.withJson, .feature Shipped.withAws]) :
    selected flags declarations =
      selected (switches (flags.isEnabled Shipped.withJson) (flags.isEnabled Shipped.withAws))
        declarations := by
  unfold selected
  refine congrArg (List.map Conditional.value) (List.filter_congr fun d hd => ?_)
  have hcondition := h d hd
  rw [List.mem_cons, List.mem_cons, List.mem_singleton] at hcondition
  rcases hcondition with hc | hc | hc
  · rw [hc]
    rfl
  · rw [hc]
    exact (isEnabled_switches_withJson _ _).symm
  · rw [hc]
    exact (isEnabled_switches_withAws _ _).symm

/-- Under any values of the two flags a revision selects what the third one does under some. -/
theorem exists_switches (r : Revision) (json aws : Bool) :
    ∃ json' aws', selected (switches json aws) r.schema.requirements =
        selected (switches json' aws') Revision.v3.schema.requirements ∧
      selected (switches json aws) r.schema.overrides =
        selected (switches json' aws') Revision.v3.schema.overrides ∧
      selected (switches json aws) r.schema.defines =
        selected (switches json' aws') Revision.v3.schema.defines := by
  -- the first revision has neither flag, and the second one has no JSON sink
  cases r with
  | v1 => exact ⟨false, false, by cases json <;> cases aws <;> decide⟩
  | v2 => exact ⟨false, aws, by cases json <;> cases aws <;> decide⟩
  | v3 => exact ⟨json, aws, rfl, rfl, rfl⟩

/-- Every plan for a resolution of a shipped revision is of this kind. -/
theorem isShipped_ofResolution (r : Revision) (identity : Identity) (flags : NormalizedFlags)
    (standard : Option Standard) (os : Option String) :
    ∃ json aws, IsShipped json aws
      (.ofResolution r.schema (resolve r.schema identity flags standard) os) := by
  have hconsistent := (Schema.check_eq_ok_iff r.schema).1 r.check_schema
  have hrequirements : (resolve r.schema identity flags standard).requirements =
      selected flags r.schema.requirements :=
    congrArg Prod.fst (Resolution.dropRepeated_of_consistent flags hconsistent)
  obtain ⟨json, aws, hselected⟩ := exists_switches r (flags.isEnabled Shipped.withJson)
    (flags.isEnabled Shipped.withAws)
  rw [← selected_switches flags (by cases r <;> decide),
    ← selected_switches flags (by cases r <;> decide),
    ← selected_switches flags (by cases r <;> decide)] at hselected
  refine ⟨json, aws, ?_, hselected.2.1, hselected.2.2, ?_, os, rfl⟩
  · exact hrequirements.trans hselected.1
  · have hnames : ∀ v ∈ r.schema.cacheVariables,
        v.name ∈ Revision.v3.schema.cacheVariables.map (·.name) := by
      cases r <;> decide
    exact List.forall_mem_map.2 fun v hv => ⟨hnames v hv, _, rfl⟩

/-! ## Reading the material from its end -/

/-- The bytes of the requirements and of the overrides of a shipped plan. -/
def requirementBytes (json aws : Bool) : List UInt8 :=
  let requirements := selected (switches json aws) Revision.v3.schema.requirements
  (requirements.map (·.name)).flatMap textBytes ++
    ((requirements.map (·.version)).flatMap textBytes ++
      (selected (switches json aws) Revision.v3.schema.overrides).flatMap overrideBytes)

/-- The letter at which the material is cut. -/
def cutLetter : UInt8 := 'r'.toUInt8

/-- The letter that tells whether the JSON library is required. -/
def jsonLetter : UInt8 := 'j'.toUInt8

/-- The letter that tells whether the client library of the cloud service is required. -/
def awsLetter : UInt8 := 'w'.toUInt8

/-- That none of the three letters occurs. -/
def Unmarked (bytes : List UInt8) : Prop :=
  cutLetter ∉ bytes ∧ jsonLetter ∉ bytes ∧ awsLetter ∉ bytes

instance (bytes : List UInt8) : Decidable (Unmarked bytes) :=
  inferInstanceAs (Decidable (_ ∧ _))

/-- What stands between the package and the cut. -/
def lead : List UInt8 := utf8 "catch2\x00fmt\x00t"

/-- What stands behind the cut, up to the loose texts. -/
def trail (json aws : Bool) : List UInt8 :=
  (requirementBytes json aws).drop (lead.length + 1)

/-- What stands behind the cut in the material of a plan. -/
def behind (p : Plan) (json aws : Bool) : List UInt8 :=
  trail json aws ++ (p.looseTexts.flatMap textBytes ++ truthBytes p.runsTests)

theorem requirementBytes_eq (json aws : Bool) :
    requirementBytes json aws = lead ++ cutLetter :: trail json aws := by
  cases json <;> cases aws <;> decide +kernel

/-- Behind the cut its letter does not occur again, and the two others occur as they should. -/
theorem mem_trail (json aws : Bool) :
    cutLetter ∉ trail json aws ∧ (jsonLetter ∈ trail json aws ↔ json = true) ∧
      (awsLetter ∈ trail json aws ↔ aws = true) := by
  cases json <;> cases aws <;> decide +kernel

/-- Every text that can be among the loose texts of a shipped plan. -/
def vocabulary : List String :=
  Revision.v3.schema.defines.map (·.value) ++ (Standard.all.map Standard.digits ++
    (Revision.v3.schema.cacheVariables.map (·.name) ++ [switchText true, switchText false]))

/-- The steps are known once it is known whether tests are among them. -/
theorem stepsFor_eq_of_contains {os os' : Option String}
    (h : (stepsFor os).contains .test = (stepsFor os').contains .test) :
    stepsFor os = stepsFor os' := by
  unfold stepsFor at h ⊢
  by_cases hos : os = some untestedSystem
  · by_cases hos' : os' = some untestedSystem
    · rw [if_pos hos, if_pos hos']
    · rw [if_pos hos, if_neg hos'] at h
      cases h
  · by_cases hos' : os' = some untestedSystem
    · rw [if_neg hos, if_pos hos'] at h
      cases h
    · rw [if_neg hos, if_neg hos']

namespace IsShipped

variable {json aws : Bool} {p : Plan}

theorem looseTexts_mem (h : IsShipped json aws p) : ∀ s ∈ p.looseTexts, s ∈ vocabulary := by
  intro s hs
  unfold vocabulary
  rw [List.mem_append, List.mem_append, List.mem_append]
  rcases mem_looseTexts.1 hs with hdefine | ⟨standard, -, rfl⟩ | ⟨v, hv, hs⟩
  · left
    rw [h.defines] at hdefine
    obtain ⟨d, hd, rfl⟩ := List.mem_map.1 hdefine
    exact List.mem_map_of_mem (List.mem_filter.1 hd).1
  · right; left
    exact List.mem_map_of_mem (by cases standard <;> decide)
  · right; right
    obtain ⟨hname, on, hvalue⟩ := h.cacheVariables v hv
    rcases hs with rfl | rfl
    · exact .inl hname
    · right
      rw [hvalue]
      cases on <;> decide

theorem nulFree_looseTexts (h : IsShipped json aws p) : ∀ s ∈ p.looseTexts, NulFree s := by
  have hplain : ∀ s ∈ vocabulary, NulFree s := by decide
  exact fun s hs => hplain s (h.looseTexts_mem s hs)

/-- None of the three letters is in the loose texts or behind them. -/
theorem unmarked_rest (h : IsShipped json aws p) :
    Unmarked (p.looseTexts.flatMap textBytes ++ truthBytes p.runsTests) := by
  have htexts : ∀ s ∈ vocabulary, Unmarked (textBytes s) := by decide +kernel
  have htruth (b : Bool) : Unmarked (truthBytes b) := by cases b <;> decide
  have hnot {c : UInt8} (hc : ∀ bytes, Unmarked bytes → c ∉ bytes) :
      c ∉ p.looseTexts.flatMap textBytes ++ truthBytes p.runsTests := by
    rw [List.mem_append, not_or, List.mem_flatMap]
    refine ⟨?_, hc _ (htruth _)⟩
    rintro ⟨s, hs, hmem⟩
    exact hc _ (htexts s (h.looseTexts_mem s hs)) hmem
  exact ⟨hnot fun _ hb => hb.1, hnot fun _ hb => hb.2.1, hnot fun _ hb => hb.2.2⟩

theorem mem_behind (h : IsShipped json aws p) :
    cutLetter ∉ p.behind json aws ∧ (jsonLetter ∈ p.behind json aws ↔ json = true) ∧
      (awsLetter ∈ p.behind json aws ↔ aws = true) := by
  obtain ⟨hcut, hjson, haws⟩ := mem_trail json aws
  obtain ⟨hcut', hjson', haws'⟩ := h.unmarked_rest
  unfold behind
  refine ⟨?_, ?_, ?_⟩
  · rw [List.mem_append, not_or]
    exact ⟨hcut, hcut'⟩
  · rw [List.mem_append, or_iff_left hjson', hjson]
  · rw [List.mem_append, or_iff_left haws', haws]

/-- The material of a shipped plan, cut at the last `r`. -/
theorem fed_eq (h : IsShipped json aws p) :
    p.keyMaterial.fed = textBytes p.package ++ lead ++ cutLetter :: p.behind json aws := by
  have hbytes : (p.requirements.map (·.name)).flatMap textBytes ++
      ((p.requirements.map (·.version)).flatMap textBytes ++ p.overrides.flatMap overrideBytes) =
        lead ++ cutLetter :: trail json aws := by
    rw [h.requirements, h.overrides]
    exact requirementBytes_eq json aws
  calc p.keyMaterial.fed
      = textBytes p.package ++ (((p.requirements.map (·.name)).flatMap textBytes ++
          ((p.requirements.map (·.version)).flatMap textBytes ++
            p.overrides.flatMap overrideBytes)) ++
          (p.looseTexts.flatMap textBytes ++ truthBytes p.runsTests)) := by
        rw [fed_keyMaterial]
        simp only [List.append_assoc]
    _ = textBytes p.package ++ lead ++ cutLetter :: p.behind json aws := by
        rw [hbytes]
        simp only [behind, List.append_assoc, List.cons_append]

/-- Shipped plans with the same material are equal. -/
theorem eq_of_fed_eq {json' aws' : Bool} {q : Plan} (hp : IsShipped json aws p)
    (hq : IsShipped json' aws' q) (h : p.keyMaterial.fed = q.keyMaterial.fed) : p = q := by
  rw [hp.fed_eq, hq.fed_eq] at h
  obtain ⟨hcut, hjson, haws⟩ := hp.mem_behind
  obtain ⟨hcut', hjson', haws'⟩ := hq.mem_behind
  -- the last `r` of either material is the one in the name of the third requirement
  obtain ⟨hfront, hbehind⟩ := append_cons_inj_of_last hcut hcut' h
  have hpackage : p.package = q.package :=
    utf8_injective (List.append_cancel_right (List.append_cancel_right hfront))
  obtain rfl : json = json' := by
    rw [Bool.eq_iff_iff, ← hjson, ← hjson', hbehind]
  obtain rfl : aws = aws' := by
    rw [Bool.eq_iff_iff, ← haws, ← haws', hbehind]
  -- the two switches decide everything up to the loose texts
  have hrequirements := hp.requirements.trans hq.requirements.symm
  have hoverrides := hp.overrides.trans hq.overrides.symm
  have hdefines := hp.defines.trans hq.defines.symm
  obtain ⟨hloose, htests⟩ := List.append_inj' (List.append_cancel_left hbehind) rfl
  have htexts := texts_injective hp.nulFree_looseTexts hq.nulFree_looseTexts hloose
  obtain ⟨hstandard, hvariables⟩ :=
    standard_append_inj (List.append_inj htexts (congrArg List.length hdefines)).2
  have hsteps : p.steps = q.steps := by
    obtain ⟨os, hos⟩ := hp.steps
    obtain ⟨os', hos'⟩ := hq.steps
    have hruns := truthBytes_injective htests
    unfold runsTests at hruns
    rw [hos, hos'] at hruns ⊢
    exact stepsFor_eq_of_contains hruns
  cases p
  cases q
  rw [Plan.mk.injEq]
  exact ⟨hpackage, hrequirements, hoverrides, hdefines, hstandard, hvariables, hsteps⟩

end IsShipped

end Plan

namespace Request

/-- Every plan that a driver is handed is a shipped one. -/
theorem isShipped_of_drive_mem {σ : Type} {r : Request} {files : FileTree}
    {driver : Recipient σ Plan} {registry : Recipient σ PackageMetadata} {state : σ} {p : Plan}
    {answer : Except Failure Unit} (h : .drive p answer ∈ r.calls files driver registry state) :
    ∃ json aws, p.IsShipped json aws := by
  obtain ⟨c, hc, rfl⟩ := (r.run_course files driver registry state).plan_of_mem h
  rw [result_resolve, map_eq_ok_iff] at hc
  obtain ⟨pass, hpass, rfl⟩ := hc
  obtain ⟨identity, toolchain, standard, warnings, -, -, -, -, rfl⟩ := validatedPass_eq_ok hpass
  exact Plan.isShipped_ofResolution r.revision identity _ standard r.settings.os

/-- Of all plans that drivers are handed in runs for shipped revisions, with whatever version,
options and settings, no two different ones have the same key material. If two different ones have
the same key, their materials collide. -/
theorem plan_eq_of_fed_eq {σ σ' : Type} {r r' : Request} {files files' : FileTree}
    {driver : Recipient σ Plan} {driver' : Recipient σ' Plan}
    {registry : Recipient σ PackageMetadata} {registry' : Recipient σ' PackageMetadata}
    {state : σ} {state' : σ'} {p p' : Plan} {answer answer' : Except Failure Unit}
    (h : .drive p answer ∈ r.calls files driver registry state)
    (h' : .drive p' answer' ∈ r'.calls files' driver' registry' state') :
    (p.keyMaterial.fed = p'.keyMaterial.fed → p = p') ∧
      (p.cacheKey = p'.cacheKey → p = p' ∨ p.keyMaterial.Collide p'.keyMaterial) := by
  obtain ⟨json, aws, hp⟩ := isShipped_of_drive_mem h
  obtain ⟨json', aws', hp'⟩ := isShipped_of_drive_mem h'
  refine ⟨hp.eq_of_fed_eq hp', ?_⟩
  intro hkey
  by_cases hfed : p.keyMaterial.fed = p'.keyMaterial.fed
  · exact .inl (hp.eq_of_fed_eq hp' hfed)
  · exact .inr ⟨hfed, hkey⟩

/-- A version that imitates what is hashed for the first revision: the material of the first plan
goes on where that of the second one ends. -/
theorem fed_ne_of_imitating_version :
    let version := "1.0.0\x00catch2\x00fmt\x00trompeloeil\x003.1.0\x009.0.0\x0042\x00\x01"
    let files := FileTree.empty.put ["VERSION"] (.file version.toUTF8)
    let settings := (Settings.empty.insert .compiler "gcc").insert .compilerVersion "9"
    let r : Request := { revision := .v3, recipeFolder := "/", settings }
    let r' : Request := { revision := .v1, recipeFolder := "/", settings }
    let driver : Recipient Unit Plan := fun _ state => (state, .ok ())
    let registry : Recipient Unit PackageMetadata := fun _ state => (state, .ok ())
    ∃ p p', .drive p (.ok ()) ∈ r.calls files driver registry () ∧
      .drive p' (.ok ()) ∈ r'.calls files driver registry () ∧
      p'.keyMaterial.fed <+: p.keyMaterial.fed ∧ p.keyMaterial.fed ≠ p'.keyMaterial.fed := by
  intro version files settings r r' driver registry
  let p : Plan :=
    { package := "octo-logger-cpp/" ++ version,
      requirements := [⟨"catch2", "3.1.0"⟩, ⟨"fmt", "9.0.0"⟩, ⟨"trompeloeil", "42"⟩],
      overrides := [], defines := [], standard := none,
      cacheVariables := [("WITH_AWS", "OFF"), ("WITH_JSON_FORMATTING", "OFF")],
      steps := Plan.stepsFor none }
  let p' : Plan := { p with package := "octo-logger-cpp/1.0.0", cacheVariables := [] }
  have hdrive (r : Request) (p : Plan)
      (h : (r.resolve files).result.toOption.map r.plan = some p) :
      .drive p (.ok ()) ∈ r.calls files driver registry () := by
    cases hc : (r.resolve files).result with
    | error f =>
      rw [hc] at h
      cases h
    | ok c =>
      rw [hc] at h
      obtain rfl := Option.some.inj h
      unfold calls recordedRun
      rw [run_of_resolved r files _ _ _ hc]
      exact List.mem_cons_self
  have hp : .drive p (.ok ()) ∈ r.calls files driver registry () := hdrive r p (by decide +kernel)
  have hp' : .drive p' (.ok ()) ∈ r'.calls files driver registry () :=
    hdrive r' p' (by decide +kernel)
  refine ⟨p, p', hp, hp', by decide +kernel, ?_⟩
  intro hfed
  exact absurd (congrArg Plan.cacheVariables ((plan_eq_of_fed_eq hp hp').1 hfed)) (by decide)

end Request

end RecipeResolver
