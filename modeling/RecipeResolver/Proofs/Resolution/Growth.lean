import RecipeResolver.Proofs.Resolution.Coherence
import RecipeResolver.Proofs.Resolution.OverrideOrder

/-!
# Turning flags on only adds

Two assignments of one schema are compared, of which the second one has on whatever the first one
has on. The closure keeps this order (`isEnabled_closure_mono`), so every condition that holds under
the first assignment holds under the second one, and every selection grows (`selected_sublist`).

Only the requirements need more than that: where two of them are about one package the earlier one
wins, and turning a flag on may bring in the earlier one and drop the later one. In a consistent
schema no two are about one package.
-/

namespace RecipeResolver

/-! ## Assignments -/

namespace Schema

/-- The flags of a schema at the values of an assignment. -/
def flagsAt (s : Schema) (values : String → Bool) : List Flag :=
  s.features.map fun d => { name := d.name, value := values d.name, byDefault := d.byDefault }

/-- The calls that give every declared flag its value in an assignment. -/
def callsFor (s : Schema) (values : String → Bool) : List (String × Bool) :=
  s.features.map fun d => (d.name, values d.name)

/-- The pass of a schema in which every declared flag has been given its value. -/
def passAt (s : Schema) (identity : Identity) (values : String → Bool) : OpenPass :=
  (OpenPass.start s identity).afterCalls (s.callsFor values)

variable (s : Schema) (values : String → Bool)

/-- The last value that a declared flag is given is the one it has in the assignment. -/
theorem lastGiven?_callsFor {d : FlagDeclaration} (hd : d ∈ s.features) :
    lastGiven? (s.callsFor values) d.name = some (values d.name) := by
  have hmem : (d.name, values d.name) ∈ (s.callsFor values).reverse := by
    rw [List.mem_reverse]
    exact List.mem_map_of_mem (f := fun d : FlagDeclaration => (d.name, values d.name)) hd
  have hsome : ((s.callsFor values).reverse.find? fun call => call.1 == d.name).isSome = true := by
    rw [List.find?_isSome]
    exact ⟨_, hmem, beq_self_eq_true d.name⟩
  obtain ⟨call, hcall⟩ := Option.isSome_iff_exists.1 hsome
  have hname : call.1 = d.name := by simpa using List.find?_some hcall
  -- whichever call it is, the value in it is the one that the assignment has for its name
  have hvalue : call.2 = values call.1 := by
    have hfound := List.mem_reverse.1 (List.mem_of_find?_eq_some hcall)
    obtain ⟨d', -, rfl⟩ := List.mem_map.1 hfound
    rfl
  unfold lastGiven?
  rw [hcall, Option.map_some, hvalue, hname]

theorem passAt_flags {s : Schema} (h : s.Consistent) (identity : Identity)
    (values : String → Bool) : (s.passAt identity values).flags.flags = s.flagsAt values := by
  unfold passAt
  rw [OpenPass.flags_afterCalls h]
  refine List.map_congr_left fun d hd => ?_
  unfold FlagDeclaration.after
  rw [lastGiven?_callsFor s values hd]
  rfl

/-- After the implications the pass has what the rules of its schema make of the assignment. -/
theorem passAt_normalize {s : Schema} (h : s.Consistent) (identity : Identity)
    (values : String → Bool) : (s.passAt identity values).normalize.flags =
      ⟨(closure s.implications (s.flagsAt values)).flags⟩ := by
  have hschema : (s.passAt identity values).schema = s := by
    unfold passAt
    rw [OpenPass.afterCalls_start]
    rfl
  unfold OpenPass.normalize FlagSet.normalize
  rw [passAt_flags h, hschema]

/-- A name is on in an assignment if it is declared and the assignment has it on. -/
theorem isEnabled_flagsAt_iff (name : String) : isEnabled (s.flagsAt values) name = true ↔
    ∃ d ∈ s.features, d.name = name ∧ values d.name = true := by
  unfold isEnabled flagsAt
  rw [List.any_eq_true]
  simp only [List.mem_map, exists_exists_and_eq_and, Bool.and_eq_true, beq_iff_eq]

/-- Which flags are declared is up to the schema. -/
theorem isDeclared_flagsAt_congr (values' : String → Bool) (name : String) :
    isDeclared (s.flagsAt values) name = isDeclared (s.flagsAt values') name := by
  unfold isDeclared flagsAt
  rw [List.any_map, List.any_map]
  rfl

end Schema

/-! ## What grows with the flags -/

/-- What is reached from some flags is reached from more. -/
theorem reached_mono {rules : List Implication} {a b : List Flag}
    (hdeclared : ∀ name, isDeclared a name = isDeclared b name)
    (hon : ∀ name, isEnabled a name = true → isEnabled b name = true) {name : String}
    (h : Reached rules a name) : Reached rules b name := by
  refine h.of_closed (fun n hn => .of_isEnabled (hon n hn)) ?_
  intro r hr hd ht
  rw [hdeclared] at hd
  exact ht.force hr hd

/-- With more flags on before the implications, more are on after them. -/
theorem isEnabled_closure_mono {rules : List Implication} {a b : List Flag}
    (hdeclared : ∀ name, isDeclared a name = isDeclared b name)
    (hon : ∀ name, isEnabled a name = true → isEnabled b name = true) (name : String)
    (h : isEnabled (closure rules a).flags name = true) :
    isEnabled (closure rules b).flags name = true := by
  rw [isEnabled_closure_iff] at h ⊢
  exact reached_mono hdeclared hon h

section Selection

variable {flags flags' : NormalizedFlags}
  (hon : ∀ name, flags.isEnabled name = true → flags'.isEnabled name = true)

include hon

theorem Condition.holds_mono (c : Condition) (h : c.holds flags = true) :
    c.holds flags' = true := by
  cases c with
  | always => rfl
  | feature name => exact hon name h

/-- With more flags on, more declarations are selected, in the same order. -/
theorem selected_sublist {α : Type} (declarations : List (Conditional α)) :
    (selected flags declarations).Sublist (selected flags' declarations) := by
  unfold selected
  refine List.Sublist.map _ (List.monotone_filter_right declarations ?_)
  intro d hd
  exact Condition.holds_mono hon d.condition hd

end Selection

/-- What one resolution and its plan have, another resolution and its plan have as well. -/
structure Grows (c c' : Resolution) (plan plan' : Plan) : Prop where
  features : ∀ name, c.features.isEnabled name = true → c'.features.isEnabled name = true
  requirements : c.requirements.Sublist c'.requirements
  overrides : c.overrides.Sublist c'.overrides
  defines : c.defines.Sublist c'.defines
  component_requires : List.Forall₂ (fun library library' =>
      library.name = library'.name ∧ library.requires.Sublist library'.requires)
    c.metadata.components c'.metadata.components
  /-- The variables are the same ones, and those that are on stay on. -/
  build_variables : List.Forall₂ (fun v v' => v.1 = v'.1 ∧ (v.2 = "ON" → v'.2 = "ON"))
    plan.cacheVariables plan'.cacheVariables

/-- A resolution of a consistent schema under more flags has more. -/
theorem grows_of_isEnabled_le {schema : Schema} (h : schema.Consistent) (identity : Identity)
    {flags flags' : NormalizedFlags}
    (hon : ∀ name, flags.isEnabled name = true → flags'.isEnabled name = true)
    (standard : Option Standard) (os : Option String) :
    Grows (resolve schema identity flags standard) (resolve schema identity flags' standard)
      (.ofResolution schema (resolve schema identity flags standard) os)
      (.ofResolution schema (resolve schema identity flags' standard) os) where
  features := hon
  requirements := by
    show (Resolution.dropRepeated [] (selected flags schema.requirements)).1.Sublist
      (Resolution.dropRepeated [] (selected flags' schema.requirements)).1
    rw [Resolution.dropRepeated_of_consistent flags h,
      Resolution.dropRepeated_of_consistent flags' h]
    exact selected_sublist hon schema.requirements
  overrides := selected_sublist hon schema.overrides
  defines := selected_sublist hon schema.defines
  component_requires := .cons ⟨rfl, selected_sublist hon schema.componentRequires⟩ .nil
  build_variables := by
    unfold Plan.ofResolution
    rw [List.forall₂_map_left_iff, List.forall₂_map_right_iff, List.forall₂_same]
    intro v _
    refine ⟨rfl, ?_⟩
    rw [Plan.switchText_eq_on_iff, Plan.switchText_eq_on_iff]
    exact hon v.feature

/-- Turning flags on only adds. If every declared flag that one assignment has on is on in another
one, then whatever the first one has on after the implications the second one has on as well, and
what is resolved and planned for the first one stands in the same order in what is resolved and
planned for the second one. The flags of an assignment are those of a pass in which each declared
flag was set so. -/
theorem turning_on_only_adds (schema : Schema) (identity : Identity) (standard : Option Standard)
    (os : Option String) (hcheck : schema.check = .ok ()) {values values' : String → Bool}
    (hle : ∀ d ∈ schema.features, values d.name = true → values' d.name = true) :
    (schema.passAt identity values).flags.flags = schema.flagsAt values ∧
      (schema.passAt identity values').flags.flags = schema.flagsAt values' ∧
      let flags := (schema.passAt identity values).normalize.flags
      let flags' := (schema.passAt identity values').normalize.flags
      Grows (resolve schema identity flags standard) (resolve schema identity flags' standard)
        (.ofResolution schema (resolve schema identity flags standard) os)
        (.ofResolution schema (resolve schema identity flags' standard) os) := by
  have h := (Schema.check_eq_ok_iff schema).1 hcheck
  have hflags := Schema.passAt_flags h identity
  refine ⟨hflags values, hflags values', ?_⟩
  have hon (name : String) (hname : isEnabled (schema.flagsAt values) name = true) :
      isEnabled (schema.flagsAt values') name = true := by
    rw [Schema.isEnabled_flagsAt_iff] at hname ⊢
    obtain ⟨d, hd, rfl, hvalue⟩ := hname
    exact ⟨d, hd, rfl, hle d hd hvalue⟩
  have hdeclared := schema.isDeclared_flagsAt_congr values values'
  refine grows_of_isEnabled_le h identity ?_ standard os
  rw [Schema.passAt_normalize h, Schema.passAt_normalize h]
  exact isEnabled_closure_mono hdeclared hon

/-- The flag that is turned on implies another one, which is off in both assignments. -/
theorem turning_on_with_aws_only_adds :
    let schema := Revision.v3.schema
    let identity := Identity.ofVersion "1.0.0"
    let off : String → Bool := fun _ => false
    let aws : String → Bool := fun name => name == "with_aws"
    let c := resolve schema identity (schema.passAt identity off).normalize.flags none
    let c' := resolve schema identity (schema.passAt identity aws).normalize.flags none
    schema.check = .ok () ∧ (∀ d ∈ schema.features, off d.name = true → aws d.name = true) ∧
      c'.features.enabled = ["with_aws", "with_json_formatting"] ∧
      c ≠ c' ∧ Grows c c' (.ofResolution schema c none) (.ofResolution schema c' none) := by
  intro schema identity off aws c c'
  have hcheck : schema.check = .ok () := Revision.v3.check_schema
  have hle : ∀ d ∈ schema.features, off d.name = true → aws d.name = true := by
    intro d _ hoff
    exact absurd hoff Bool.false_ne_true
  refine ⟨hcheck, hle, by decide +kernel, by decide +kernel, ?_⟩
  exact (turning_on_only_adds schema identity none none hcheck hle).2.2

end RecipeResolver
