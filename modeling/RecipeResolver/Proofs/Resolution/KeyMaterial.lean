import RecipeResolver.Proofs.Digest.SelfDelimiting
import RecipeResolver.Recipe.Shipped
import RecipeResolver.Resolution.Pass
import RecipeResolver.Resolution.Plan

/-!
# What a cache key tells apart

The key of a plan is a hash of the bytes in `Plan.keyMaterial`. Every text in them has its
terminator, but no list has its length in front, and a standard that is absent leaves no trace. So
the defines, the standard and the variables of the build arrive as one list of texts, the
`Plan.looseTexts`, and a define that reads like a standard is taken for one: two resolutions of one
schema can have the same material and differ in both (`Plan.keyMaterial_mistakes_define`).

Between plans of the same shape, whose texts have no NUL, the material decides everything but the
steps (`Plan.fed_keyMaterial_eq_iff`).
-/

namespace RecipeResolver

namespace Plan

open Fingerprint

/-! ## The bytes of the key material -/

/-- The bytes of an override. -/
def overrideBytes (o : OptionOverride) : List UInt8 :=
  textBytes o.package ++ textBytes o.option ++ truthBytes o.value

/-- The names and values of variables in turn. -/
def variableTexts (vs : List (String × String)) : List String :=
  vs.flatMap fun v => [v.1, v.2]

/-- The texts behind the overrides: the defines, the digits of the standard if there is one, and the
variables with their values. -/
def looseTexts (p : Plan) : List String :=
  p.defines ++ ((p.standard.map Standard.digits).toList ++ variableTexts p.cacheVariables)

theorem mem_looseTexts {p : Plan} {s : String} :
    s ∈ p.looseTexts ↔ s ∈ p.defines ∨ (∃ standard, p.standard = some standard ∧
      standard.digits = s) ∨ ∃ v ∈ p.cacheVariables, s = v.1 ∨ s = v.2 := by
  unfold looseTexts variableTexts
  rw [List.mem_append, List.mem_append, Option.mem_toList, Option.map_eq_some_iff,
    List.mem_flatMap]
  simp only [List.mem_cons, List.not_mem_nil, or_false]

theorem fed_feedOverride (f : Fingerprint) (o : OptionOverride) :
    (feedOverride f o).fed = f.fed ++ overrideBytes o := by
  unfold feedOverride overrideBytes
  rw [fed_addTruth, fed_addText, fed_addText, List.append_assoc, List.append_assoc,
    List.append_assoc]

theorem fed_feedVariable (f : Fingerprint) (v : String × String) :
    (feedVariable f v).fed = f.fed ++ [v.1, v.2].flatMap textBytes := by
  unfold feedVariable
  rw [fed_addText, fed_addText, List.append_assoc, List.flatMap_cons, List.flatMap_cons,
    List.flatMap_nil, List.append_nil]

/-- The material of a key in full. -/
theorem fed_keyMaterial (p : Plan) :
    p.keyMaterial.fed =
      textBytes p.package ++ ((p.requirements.map (·.name)).flatMap textBytes ++
        ((p.requirements.map (·.version)).flatMap textBytes ++
          (p.overrides.flatMap overrideBytes ++
            (p.looseTexts.flatMap textBytes ++ truthBytes p.runsTests)))) := by
  unfold keyMaterial looseTexts variableTexts
  cases p.standard <;>
    simp [fed_foldl fed_feedOverride, fed_foldl fed_feedVariable, List.flatMap_assoc]

/-! ## What the material decides -/

/-- That no text of a plan has a NUL in it. -/
structure TextsNulFree (p : Plan) : Prop where
  package : NulFree p.package
  requirements : ∀ r ∈ p.requirements, NulFree r.name ∧ NulFree r.version
  overrides : ∀ o ∈ p.overrides, NulFree o.package ∧ NulFree o.option
  defines : ∀ d ∈ p.defines, NulFree d
  cacheVariables : ∀ v ∈ p.cacheVariables, NulFree v.1 ∧ NulFree v.2

/-- That two plans have as many requirements, overrides and defines. -/
structure SameShape (p q : Plan) : Prop where
  requirements : p.requirements.length = q.requirements.length
  overrides : p.overrides.length = q.overrides.length
  defines : p.defines.length = q.defines.length

/-- That two plans are the same build: they agree in everything but the steps, and of the steps on
whether tests run. -/
structure SameBuild (p q : Plan) : Prop where
  package : p.package = q.package
  requirements : p.requirements = q.requirements
  overrides : p.overrides = q.overrides
  defines : p.defines = q.defines
  standard : p.standard = q.standard
  cacheVariables : p.cacheVariables = q.cacheVariables
  runsTests : p.runsTests = q.runsTests

theorem selfDelimiting_overrideBytes :
    SelfDelimiting (fun o => NulFree o.package ∧ NulFree o.option) overrideBytes := by
  intro a b ha hb s t h
  unfold overrideBytes at h
  rw [List.append_assoc, List.append_assoc, List.append_assoc, List.append_assoc] at h
  obtain ⟨hpackage, h⟩ := selfDelimiting_textBytes ha.1 hb.1 h
  obtain ⟨hoption, h⟩ := selfDelimiting_textBytes ha.2 hb.2 h
  obtain ⟨hvalue, hrest⟩ := selfDelimiting_truthBytes trivial trivial h
  cases a
  cases b
  exact ⟨(OptionOverride.mk.injEq ..).mpr ⟨hpackage, hoption, hvalue⟩, hrest⟩

/-- Packages are given by their names and their versions. -/
theorem requirements_eq_of_map {as bs : List PackageRef}
    (hnames : as.map (·.name) = bs.map (·.name))
    (hversions : as.map (·.version) = bs.map (·.version)) : as = bs := by
  have hzip (l : List PackageRef) :
      (l.map (·.name)).zipWith PackageRef.mk (l.map (·.version)) = l := by
    rw [List.zipWith_map, List.zipWith_self, List.map_id']
  rw [← hzip as, ← hzip bs, hnames, hversions]

theorem TextsNulFree.looseTexts {p : Plan} (hp : p.TextsNulFree) :
    ∀ s ∈ p.looseTexts, NulFree s := by
  intro s hs
  rcases mem_looseTexts.1 hs with hdefine | ⟨standard, -, rfl⟩ | ⟨v, hv, rfl | rfl⟩
  · exact hp.defines s hdefine
  · cases standard <;> decide
  · exact (hp.cacheVariables v hv).1
  · exact (hp.cacheVariables v hv).2

/-- Plans with as many requirements and overrides have the same material if and only if they agree
on these, on the package, on whether tests run, and on the loose texts taken together. -/
theorem fed_keyMaterial_eq_iff_looseTexts {p q : Plan} (hp : p.TextsNulFree) (hq : q.TextsNulFree)
    (hrequirements : p.requirements.length = q.requirements.length)
    (hoverrides : p.overrides.length = q.overrides.length) :
    p.keyMaterial.fed = q.keyMaterial.fed ↔
      p.package = q.package ∧ p.requirements = q.requirements ∧ p.overrides = q.overrides ∧
        p.looseTexts = q.looseTexts ∧ p.runsTests = q.runsTests := by
  rw [fed_keyMaterial, fed_keyMaterial]
  constructor
  · intro h
    obtain ⟨hpackage, h⟩ := selfDelimiting_textBytes hp.package hq.package h
    have hlength {β : Type} (f : PackageRef → β) :
        (p.requirements.map f).length = (q.requirements.map f).length := by
      rw [List.length_map, List.length_map, hrequirements]
    obtain ⟨hnames, h⟩ := selfDelimiting_textBytes.flatMap_of_length (hlength _)
      (List.forall_mem_map.2 fun r hr => (hp.requirements r hr).1)
      (List.forall_mem_map.2 fun r hr => (hq.requirements r hr).1) h
    obtain ⟨hversions, h⟩ := selfDelimiting_textBytes.flatMap_of_length (hlength _)
      (List.forall_mem_map.2 fun r hr => (hp.requirements r hr).2)
      (List.forall_mem_map.2 fun r hr => (hq.requirements r hr).2) h
    obtain ⟨hsame, h⟩ := selfDelimiting_overrideBytes.flatMap_of_length hoverrides hp.overrides
      hq.overrides h
    -- the truth value at the end is one byte, so it is the last one on both sides
    obtain ⟨hloose, htests⟩ := List.append_inj' h rfl
    exact ⟨hpackage, requirements_eq_of_map hnames hversions, hsame,
      texts_injective hp.looseTexts hq.looseTexts hloose, truthBytes_injective htests⟩
  · rintro ⟨hpackage, hrequirements, hoverrides, hloose, htests⟩
    rw [hpackage, hrequirements, hoverrides, hloose, htests]

theorem length_variableTexts (vs : List (String × String)) :
    (variableTexts vs).length = 2 * vs.length := by
  unfold variableTexts
  induction vs with
  | nil => rfl
  | cons v rest ih =>
    rw [List.flatMap_cons, List.length_append, ih, List.length_cons]
    simp only [List.length_cons, List.length_nil]
    omega

theorem variableTexts_injective {as bs : List (String × String)}
    (h : variableTexts as = variableTexts bs) : as = bs := by
  unfold variableTexts at h
  induction as generalizing bs with
  | nil =>
    cases bs with
    | nil => rfl
    | cons b bs => cases h
  | cons a as ih =>
    cases bs with
    | nil => cases h
    | cons b bs =>
      obtain ⟨hname, h⟩ := List.cons.inj h
      obtain ⟨hvalue, h⟩ := List.cons.inj h
      rw [ih h, Prod.ext hname hvalue]

/-- A standard in front of the variables makes the number of texts odd, so it cannot be taken for
one of them. -/
theorem standard_append_inj {a b : Option Standard} {as bs : List (String × String)}
    (h : (a.map Standard.digits).toList ++ variableTexts as =
      (b.map Standard.digits).toList ++ variableTexts bs) : a = b ∧ as = bs := by
  have hlength := congrArg List.length h
  rw [List.length_append, List.length_append, length_variableTexts, length_variableTexts] at hlength
  cases a with
  | none =>
    cases b with
    | none => exact ⟨rfl, variableTexts_injective h⟩
    | some b =>
      simp only [Option.map_none, Option.map_some, Option.toList_none, Option.toList_some,
        List.length_nil, List.length_singleton] at hlength
      omega
  | some a =>
    cases b with
    | none =>
      simp only [Option.map_none, Option.map_some, Option.toList_none, Option.toList_some,
        List.length_nil, List.length_singleton] at hlength
      omega
    | some b =>
      obtain ⟨hdigits, h⟩ := List.cons.inj h
      exact ⟨congrArg some (Standard.digits_injective hdigits), variableTexts_injective h⟩

/-- Between plans of one shape without NUL the material of the key decides the build. -/
theorem fed_keyMaterial_eq_iff {p q : Plan} (hp : p.TextsNulFree) (hq : q.TextsNulFree)
    (hshape : SameShape p q) : p.keyMaterial.fed = q.keyMaterial.fed ↔ SameBuild p q := by
  rw [fed_keyMaterial_eq_iff_looseTexts hp hq hshape.requirements hshape.overrides]
  constructor
  · rintro ⟨hpackage, hrequirements, hoverrides, hloose, htests⟩
    obtain ⟨hdefines, hrest⟩ := List.append_inj hloose hshape.defines
    obtain ⟨hstandard, hvariables⟩ := standard_append_inj hrest
    exact ⟨hpackage, hrequirements, hoverrides, hdefines, hstandard, hvariables, htests⟩
  · intro h
    refine ⟨h.package, h.requirements, h.overrides, ?_, h.runsTests⟩
    unfold looseTexts
    rw [h.defines, h.standard, h.cacheVariables]

/-- A variable with the name of a standard is not taken for one, because its value follows it. -/
theorem keyMaterial_tells_variable_from_standard :
    let named : Plan :=
      { package := "octo-logger-cpp/1.0.0", requirements := [⟨"fmt", "9.0.0"⟩],
        overrides := [⟨"fmt", "shared", false⟩], defines := ["17"], standard := none,
        cacheVariables := [("17", "ON")], steps := stepsFor none }
    let dated : Plan := { named with standard := some .cpp17, cacheVariables := [] }
    named.TextsNulFree ∧ dated.TextsNulFree ∧ SameShape named dated ∧
      named.keyMaterial.fed ≠ dated.keyMaterial.fed := by
  intro named dated
  have hnamed : named.TextsNulFree := ⟨by decide, by decide, by decide, by decide, by decide⟩
  have hdated : dated.TextsNulFree := ⟨by decide, by decide, by decide, by decide, by decide⟩
  have hshape : SameShape named dated := ⟨rfl, rfl, rfl⟩
  refine ⟨hnamed, hdated, hshape, fun h => ?_⟩
  exact absurd ((fed_keyMaterial_eq_iff hnamed hdated hshape).1 h).standard (by decide)

/-! ## A define that is taken for a standard -/

/-- A schema with one flag and one define, which reads like a standard. -/
def definesSeventeen : Schema where
  revision := .latest
  versionSource := .literal "1.0.0"
  features := [{ name := "seventeen", byDefault := false, description := "" }]
  minimumVersions := Shipped.minimumVersions
  defines := [.whenOn "seventeen" "17"]

/-- The plan for a resolution of that schema with its flag set to a value. -/
def seventeenPlan (on : Bool) (standard : Option Standard) : Option Plan :=
  let pass := OpenPass.start definesSeventeen (.ofVersion "1.0.0")
  (pass.set "seventeen" on).toOption.map fun pass =>
    .ofResolution pass.schema (resolve pass.schema pass.identity pass.normalize.flags standard) none

/-- The material does not decide the build, not even between resolutions of one schema whose
declarations fit together. With the flag on and no standard it is the same as with the flag off and
C++17, but only the first of the two builds defines anything. -/
theorem keyMaterial_mistakes_define :
    definesSeventeen.check = .ok () ∧
      ∃ flagged dated, seventeenPlan true none = some flagged ∧
        seventeenPlan false (some .cpp17) = some dated ∧
        flagged.keyMaterial.fed = dated.keyMaterial.fed ∧ flagged.cacheKey = dated.cacheKey ∧
        (flagged.defines = ["17"] ∧ dated.defines = []) ∧
        flagged.standard = none ∧ dated.standard = some .cpp17 := by
  let flagged : Plan :=
    { package := "octo-logger-cpp/1.0.0", requirements := [], overrides := [], defines := ["17"],
      standard := none, cacheVariables := [], steps := stepsFor none }
  let dated : Plan := { flagged with defines := [], standard := some .cpp17 }
  have hfed : flagged.keyMaterial.fed = dated.keyMaterial.fed := by
    decide +kernel
  have hkey : flagged.cacheKey = dated.cacheKey := by
    unfold cacheKey Fingerprint.finishShort Fingerprint.finish
    rw [hfed]
  exact ⟨rfl, flagged, dated, by decide +kernel, by decide +kernel, hfed, hkey,
    ⟨rfl, rfl⟩, rfl, rfl⟩

end Plan

end RecipeResolver
