import RecipeResolver.Recipe.Schema

/-!
# Consistent schemas

`Schema.Consistent` says what `Schema.check` tests, clause by clause: nothing is declared twice, and
everything that speaks about a flag speaks about a declared one.
-/

namespace RecipeResolver

namespace Schema

/-- The declarations of a schema fit together. -/
structure Consistent (s : Schema) : Prop where
  features_nodup : (s.features.map (·.name)).Nodup
  packages_nodup : (s.requirements.map (·.value.name)).Nodup
  conditions_declared : ∀ name ∈ s.conditionFeatures, s.declares name = true
  implications_declared : ∀ rule ∈ s.implications,
    s.declares rule.trigger = true ∧ s.declares rule.forced = true
  variables_declared : ∀ v ∈ s.cacheVariables, s.declares v.feature = true

/-- No text stands a second time if and only if all are distinct, and none was seen before. -/
theorem firstRepeated?_eq_none_iff (seen texts : List String) :
    firstRepeated? seen texts = none ↔ texts.Nodup ∧ ∀ s ∈ texts, s ∉ seen := by
  induction texts generalizing seen with
  | nil => simp [firstRepeated?]
  | cons s rest ih =>
    unfold firstRepeated?
    by_cases h : s ∈ seen
    · rw [if_pos (List.contains_iff_mem.2 h)]
      simp [h]
    · rw [if_neg (fun hc => h (List.contains_iff_mem.1 hc)), ih, List.nodup_cons]
      constructor
      · rintro ⟨hnodup, hseen⟩
        refine ⟨⟨fun hmem => hseen s hmem List.mem_cons_self, hnodup⟩, ?_⟩
        intro t ht
        rcases List.mem_cons.1 ht with rfl | ht
        · exact h
        · exact fun hmem => hseen t ht (List.mem_cons_of_mem s hmem)
      · rintro ⟨⟨hs, hnodup⟩, hseen⟩
        refine ⟨hnodup, ?_⟩
        intro t ht hmem
        rcases List.mem_cons.1 hmem with rfl | hmem
        · exact hs ht
        · exact hseen t (List.mem_cons_of_mem s ht) hmem

/-- The texts are distinct if none of them stands a second time. -/
theorem firstRepeated?_nil_eq_none_iff (texts : List String) :
    firstRepeated? [] texts = none ↔ texts.Nodup := by
  rw [firstRepeated?_eq_none_iff]
  exact and_iff_left fun _ _ => List.not_mem_nil

/-- A schema without flaws is consistent, and the other way round. -/
theorem flaw?_eq_none_iff (s : Schema) : s.flaw? = none ↔ s.Consistent := by
  unfold flaw?
  rw [Option.or_eq_none_iff, Option.or_eq_none_iff, Option.or_eq_none_iff, Option.or_eq_none_iff,
    Option.map_eq_none_iff, Option.map_eq_none_iff, Option.map_eq_none_iff,
    Option.map_eq_none_iff, Option.map_eq_none_iff, firstRepeated?_nil_eq_none_iff,
    firstRepeated?_nil_eq_none_iff, List.find?_eq_none, List.find?_eq_none, List.find?_eq_none]
  simp only [Bool.not_eq_true', Bool.not_eq_false, Bool.and_eq_true]
  constructor
  · rintro ⟨hfeatures, hpackages, hconditions, himplications, hvariables⟩
    exact ⟨hfeatures, hpackages, hconditions, himplications, hvariables⟩
  · rintro ⟨hfeatures, hpackages, hconditions, himplications, hvariables⟩
    exact ⟨hfeatures, hpackages, hconditions, himplications, hvariables⟩

/-- The check accepts the consistent schemas. -/
theorem check_eq_ok_iff (s : Schema) : s.check = .ok () ↔ s.Consistent := by
  rw [← flaw?_eq_none_iff]
  unfold check
  cases s.flaw? <;> simp

end Schema

end RecipeResolver
