import Mathlib.Data.List.Forall2
import RecipeResolver.Proofs.Resolution.Requirements
import RecipeResolver.Resolution.Plan

/-!
# One selection in every output

Whether a flag is on shows in many places: in the overrides, in the defines (of the resolution, of
the published package and its component, and of the plan), in what the component links against, in
the requirements and in the build variables. `Coherent` says that all of them are the same selection
from the declarations.

What a single flag contributes is told by settling it: `Schema.settled` lets the declarations that
depend on the flag apply always if the flag is on, and strikes them out if it is off. Neither
changes any output (`resolve_settled`), so a flag that is on brings in everything that depends on
it, and one that is off brings in nothing.
-/

namespace RecipeResolver

/-! ## Settling a flag -/

/-- The declarations once it is settled whether a flag is on: those that depend on it apply always,
or they are struck out. -/
def settled {α : Type} (name : String) : Bool → List (Conditional α) → List (Conditional α)
  | true, declarations =>
    declarations.map fun d => if d.condition = .feature name then .always d.value else d
  | false, declarations => declarations.filter fun d => d.condition ≠ .feature name

/-- A schema once it is settled whether a flag is on. -/
def Schema.settled (s : Schema) (name : String) (on : Bool) : Schema :=
  { s with
    requirements := RecipeResolver.settled name on s.requirements
    overrides := RecipeResolver.settled name on s.overrides
    componentRequires := RecipeResolver.settled name on s.componentRequires
    defines := RecipeResolver.settled name on s.defines }

section Selection

variable {α : Type} {flags : NormalizedFlags} {name : String}

/-- A declaration whose condition holds is selected. -/
theorem mem_selected {d : Conditional α} {declarations : List (Conditional α)}
    (hd : d ∈ declarations) (h : d.condition.holds flags = true) :
    d.value ∈ selected flags declarations := by
  unfold selected
  exact List.mem_map_of_mem (List.mem_filter.2 ⟨hd, h⟩)

/-- A declaration that depends on a flag applies if the flag is on. -/
theorem holds_of_feature {c : Condition} (hc : c = .feature name) :
    c.holds flags = flags.isEnabled name := by
  rw [hc]
  rfl

theorem selected_settled_true (hon : flags.isEnabled name = true)
    (declarations : List (Conditional α)) :
    selected flags (settled name true declarations) = selected flags declarations := by
  induction declarations with
  | nil => rfl
  | cons d rest ih =>
    show selected flags ((if d.condition = .feature name then .always d.value else d) ::
      settled name true rest) = _
    rw [selected_cons, selected_cons, ih]
    by_cases hc : d.condition = .feature name
    · have hholds : d.condition.holds flags = true := (holds_of_feature hc).trans hon
      rw [if_pos hc, if_pos hholds]
      rfl
    · rw [if_neg hc]

theorem selected_settled_false (hoff : flags.isEnabled name = false)
    (declarations : List (Conditional α)) :
    selected flags (settled name false declarations) = selected flags declarations := by
  unfold selected settled
  rw [List.filter_filter]
  refine congrArg (List.map Conditional.value) (List.filter_congr ?_)
  intro d _
  by_cases hc : d.condition = .feature name
  · have hholds : d.condition.holds flags = false := (holds_of_feature hc).trans hoff
    rw [hholds, Bool.false_and]
  · rw [decide_eq_true hc, Bool.and_true]

/-- Settling a flag as it stands leaves the selection as it is. -/
theorem selected_settled (flags : NormalizedFlags) (name : String)
    (declarations : List (Conditional α)) :
    selected flags (settled name (flags.isEnabled name) declarations) =
      selected flags declarations := by
  cases hflag : flags.isEnabled name with
  | true => exact selected_settled_true hflag declarations
  | false => exact selected_settled_false hflag declarations

end Selection

/-- Settling a flag as it stands leaves the resolution as it is. -/
theorem resolve_settled (schema : Schema) (identity : Identity) (flags : NormalizedFlags)
    (standard : Option Standard) (name : String) :
    resolve (schema.settled name (flags.isEnabled name)) identity flags standard =
      resolve schema identity flags standard := by
  unfold resolve Schema.settled
  simp only [selected_settled]

/-- Once a flag is settled no declaration depends on it any more. -/
theorem Schema.not_mem_conditionFeatures_settled (s : Schema) (name : String) (on : Bool) :
    name ∉ (s.settled name on).conditionFeatures := by
  have hfree {α : Type} (declarations : List (Conditional α)) :
      .feature name ∉ (RecipeResolver.settled name on declarations).map (·.condition) := by
    intro hmem
    obtain ⟨d, hd, hc⟩ := List.mem_map.1 hmem
    cases on with
    | true =>
      obtain ⟨d', -, rfl⟩ := List.mem_map.1 hd
      by_cases hc' : d'.condition = .feature name
      · rw [if_pos hc'] at hc
        cases hc
      · rw [if_neg hc'] at hc
        exact hc' hc
    | false =>
      have hne := (List.mem_filter.1 hd).2
      rw [decide_eq_true_eq] at hne
      exact hne hc
  intro hmem
  obtain ⟨c, hc, hname⟩ := List.mem_filterMap.1 hmem
  cases c with
  | always => cases hname
  | feature name' =>
    cases hname
    simp only [List.mem_append] at hc
    rcases hc with ((hc | hc) | hc) | hc
    · exact hfree s.requirements hc
    · exact hfree s.overrides hc
    · exact hfree s.componentRequires hc
    · exact hfree s.defines hc

/-! ## What the outputs have in common -/

/-- A resolution and a plan for it show one and the same selection from the declarations of a
schema. -/
structure Coherent (schema : Schema) (c : Resolution) (plan : Plan) : Prop where
  overrides : c.overrides =
    (schema.overrides.filter fun d => d.condition.holds c.features).map (·.value)
  defines : c.defines =
    (schema.defines.filter fun d => d.condition.holds c.features).map (·.value)
  package_defines : c.metadata.defines = c.defines
  /-- There is one component. -/
  component : ∃ library, c.metadata.components = [library] ∧ library.defines = c.defines ∧
    library.requires =
      (schema.componentRequires.filter fun d => d.condition.holds c.features).map (·.value)
  plan_package : plan.package = c.package.reference
  plan_requirements : plan.requirements = c.requirements
  plan_overrides : plan.overrides = c.overrides
  plan_defines : plan.defines = c.defines
  plan_standard : plan.standard = c.standard
  /-- For each declared variable, in order, there is one of its name. -/
  plan_variables : List.Forall₂
    (fun declared given => given.1 = declared.name ∧
      (given.2 = "ON" ↔ c.features.isEnabled declared.feature = true) ∧
      (given.2 = "OFF" ↔ c.features.isEnabled declared.feature = false))
    schema.cacheVariables plan.cacheVariables

/-- Everything that depends on a flag is there. A requirement whose package an earlier declaration
requires as well is there with the version of that one; in a schema that passes its check there is
no such declaration. -/
structure BringsIn (schema : Schema) (name : String) (c : Resolution) (plan : Plan) : Prop where
  requirements : ∀ d ∈ schema.requirements, d.condition = .feature name →
    ∃ p ∈ c.requirements, p ∈ plan.requirements ∧ p.name = d.value.name ∧
      (schema.check = .ok () → p = d.value)
  overrides : ∀ d ∈ schema.overrides, d.condition = .feature name →
    d.value ∈ c.overrides ∧ d.value ∈ plan.overrides
  defines : ∀ d ∈ schema.defines, d.condition = .feature name →
    d.value ∈ c.defines ∧ d.value ∈ c.metadata.defines ∧
      (∀ library ∈ c.metadata.components, d.value ∈ library.defines) ∧ d.value ∈ plan.defines
  component_requires : ∀ d ∈ schema.componentRequires, d.condition = .feature name →
    ∀ library ∈ c.metadata.components, d.value ∈ library.requires
  build_variables : ∀ v ∈ schema.cacheVariables, v.feature = name →
    (v.name, "ON") ∈ plan.cacheVariables

theorem Plan.switchText_eq_on_iff (b : Bool) : switchText b = "ON" ↔ b = true := by
  cases b <;> decide

theorem Plan.switchText_eq_off_iff (b : Bool) : switchText b = "OFF" ↔ b = false := by
  cases b <;> decide

/-- Of every package something is kept, unless it was seen before. -/
theorem Resolution.exists_mem_dropRepeated (seen : List String) {packages : List PackageRef}
    {p : PackageRef} (hp : p ∈ packages) :
    p.name ∈ seen ∨ ∃ q ∈ (dropRepeated seen packages).1, q.name = p.name := by
  induction packages generalizing seen with
  | nil => cases hp
  | cons first rest ih =>
    unfold dropRepeated
    by_cases hseen : first.name ∈ seen
    · rw [if_pos (List.contains_iff_mem.2 hseen)]
      rcases List.mem_cons.1 hp with rfl | hp
      · exact .inl hseen
      · exact ih seen hp
    · rw [if_neg (fun hc => hseen (List.contains_iff_mem.1 hc))]
      rcases List.mem_cons.1 hp with rfl | hp
      · exact .inr ⟨p, List.mem_cons_self, rfl⟩
      · rcases ih (first.name :: seen) hp with hmem | ⟨q, hq, hname⟩
        · rcases List.mem_cons.1 hmem with hname | hmem
          · exact .inr ⟨first, List.mem_cons_self, hname.symm⟩
          · exact .inl hmem
        · exact .inr ⟨q, List.mem_cons_of_mem first hq, hname⟩

section Outputs

variable (schema : Schema) (identity : Identity) (flags : NormalizedFlags)
  (standard : Option Standard) (os : Option String)

theorem coherent_ofResolution :
    Coherent schema (resolve schema identity flags standard)
      (.ofResolution schema (resolve schema identity flags standard) os) where
  overrides := rfl
  defines := rfl
  package_defines := rfl
  component := ⟨_, rfl, rfl, rfl⟩
  plan_package := rfl
  plan_requirements := rfl
  plan_overrides := rfl
  plan_defines := rfl
  plan_standard := rfl
  plan_variables := by
    unfold Plan.ofResolution
    rw [List.forall₂_map_right_iff, List.forall₂_same]
    intro v _
    exact ⟨rfl, Plan.switchText_eq_on_iff _, Plan.switchText_eq_off_iff _⟩

/-- A requirement whose condition holds brings its package in. -/
theorem exists_requirement {d : Conditional PackageRef} (hd : d ∈ schema.requirements)
    (h : d.condition.holds flags = true) :
    ∃ p ∈ (resolve schema identity flags standard).requirements, p.name = d.value.name ∧
      (schema.check = .ok () → p = d.value) := by
  have hselected := mem_selected hd h
  by_cases hcheck : schema.check = .ok ()
  · have hall := Resolution.dropRepeated_of_consistent flags
      ((Schema.check_eq_ok_iff schema).1 hcheck)
    refine ⟨d.value, ?_, rfl, fun _ => rfl⟩
    show d.value ∈ (Resolution.dropRepeated [] (selected flags schema.requirements)).1
    rw [hall]
    exact hselected
  · rcases Resolution.exists_mem_dropRepeated [] hselected with hmem | ⟨p, hp, hname⟩
    · cases hmem
    · exact ⟨p, hp, hname, fun hc => absurd hc hcheck⟩

theorem bringsIn_of_enabled {name : String} (hon : flags.isEnabled name = true) :
    BringsIn schema name (resolve schema identity flags standard)
      (.ofResolution schema (resolve schema identity flags standard) os) where
  requirements := by
    intro d hd hc
    have hholds : d.condition.holds flags = true := (holds_of_feature hc).trans hon
    obtain ⟨p, hp, hname⟩ := exists_requirement schema identity flags standard hd hholds
    exact ⟨p, hp, hp, hname⟩
  overrides := by
    intro d hd hc
    have hmem := mem_selected hd ((holds_of_feature hc).trans hon)
    exact ⟨hmem, hmem⟩
  defines := by
    intro d hd hc
    have hmem := mem_selected hd ((holds_of_feature hc).trans hon)
    refine ⟨hmem, hmem, ?_, hmem⟩
    intro library hlibrary
    rw [List.mem_singleton.1 hlibrary]
    exact hmem
  component_requires := by
    intro d hd hc library hlibrary
    rw [List.mem_singleton.1 hlibrary]
    exact mem_selected hd ((holds_of_feature hc).trans hon)
  build_variables := by
    rintro v hv rfl
    refine List.mem_map.2 ⟨v, hv, ?_⟩
    show (v.name, Plan.switchText (flags.isEnabled v.feature)) = _
    rw [hon]
    rfl

/-- A flag that is off leaves the variables that depend on it off. -/
theorem off_mem_cacheVariables {v : CacheVariable} (hv : v ∈ schema.cacheVariables)
    (hoff : flags.isEnabled v.feature = false) : (v.name, "OFF") ∈
      (Plan.ofResolution schema (resolve schema identity flags standard) os).cacheVariables := by
  refine List.mem_map.2 ⟨v, hv, ?_⟩
  show (v.name, Plan.switchText (flags.isEnabled v.feature)) = _
  rw [hoff]
  rfl

/-- No feature is built in by halves. The resolution and the plan show one selection from the
declarations. Neither changes if what depends on a flag is declared without a condition, when the
flag is on, or is not declared at all, when it is off: everything is brought in or nothing. -/
theorem resolve_coherent :
    ((resolve schema identity flags standard).features = flags ∧
      (resolve schema identity flags standard).package = identity ∧
      (resolve schema identity flags standard).standard = standard) ∧
    Coherent schema (resolve schema identity flags standard)
      (.ofResolution schema (resolve schema identity flags standard) os) ∧
    ∀ name,
      name ∉ (schema.settled name (flags.isEnabled name)).conditionFeatures ∧
      resolve (schema.settled name (flags.isEnabled name)) identity flags standard =
        resolve schema identity flags standard ∧
      Plan.ofResolution (schema.settled name (flags.isEnabled name))
          (resolve (schema.settled name (flags.isEnabled name)) identity flags standard) os =
        .ofResolution schema (resolve schema identity flags standard) os ∧
      (flags.isEnabled name = true →
        BringsIn schema name (resolve schema identity flags standard)
          (.ofResolution schema (resolve schema identity flags standard) os)) ∧
      (flags.isEnabled name = false →
        ∀ v ∈ schema.cacheVariables, v.feature = name → (v.name, "OFF") ∈
          (Plan.ofResolution schema (resolve schema identity flags standard)
            os).cacheVariables) := by
  refine ⟨⟨rfl, rfl, rfl⟩, coherent_ofResolution schema identity flags standard os, ?_⟩
  intro name
  have hsettled := resolve_settled schema identity flags standard name
  refine ⟨schema.not_mem_conditionFeatures_settled name _, hsettled, ?_, ?_, ?_⟩
  · -- settling a flag leaves the build variables alone, so the plans agree in them as well
    rw [hsettled]
    rfl
  · intro hon
    exact bringsIn_of_enabled schema identity flags standard os hon
  · rintro hoff v hv rfl
    exact off_mem_cacheVariables schema identity flags standard os hv hoff

end Outputs

end RecipeResolver
