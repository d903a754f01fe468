import RecipeResolver.Proofs.Recipe.Consistency
import RecipeResolver.Resolution.Basic

/-!
# Requirements of a resolution

A schema may require one package in several versions under different conditions. What a resolution
requires is `firstHolding`: of each package the first requirement whose condition holds. The
resolution finds it by dropping a requirement whose package is required already; in a schema that
passes its check there is nothing to drop.
-/

namespace RecipeResolver

/-- Whether the condition of a requirement at this place holds, and that of no earlier requirement
of the same package does. -/
def isFirstHolding (flags : NormalizedFlags) (requirements : List (Conditional PackageRef))
    (d : Conditional PackageRef) (place : Nat) : Bool :=
  d.condition.holds flags &&
    !(requirements.take place).any fun earlier =>
      earlier.value.name == d.value.name && earlier.condition.holds flags

/-- Of each package the first requirement whose condition holds, in the order of declaration. -/
def firstHolding (flags : NormalizedFlags) (requirements : List (Conditional PackageRef)) :
    List PackageRef :=
  (requirements.zipIdx.filter fun d => isFirstHolding flags requirements d.1 d.2).map (·.1.value)

/-- A declaration is selected if its condition holds. -/
theorem selected_cons {α : Type} (flags : NormalizedFlags) (d : Conditional α)
    (rest : List (Conditional α)) : selected flags (d :: rest) =
      if d.condition.holds flags then d.value :: selected flags rest else selected flags rest := by
  unfold selected
  rw [List.filter_cons]
  split <;> rfl

namespace Resolution

variable (flags : NormalizedFlags)

/-- Dropping repetitions in the rest of the requirements, when `seen` holds the packages that the
requirements in `done` have brought in. -/
theorem dropRepeated_selected (done rest : List (Conditional PackageRef)) (seen : List String)
    (hseen : ∀ name, name ∈ seen ↔
      ∃ d ∈ done, d.value.name = name ∧ d.condition.holds flags = true) :
    (dropRepeated seen (selected flags rest)).1 =
      ((rest.zipIdx done.length).filter fun d =>
        isFirstHolding flags (done ++ rest) d.1 d.2).map (·.1.value) := by
  induction rest generalizing done seen with
  | nil => rfl
  | cons d rest ih =>
    -- whichever way `d` goes, the rest is treated with `d` among what is done
    have hrest (seen' : List String) (hseen' : ∀ name, name ∈ seen' ↔
        name ∈ seen ∨ d.value.name = name ∧ d.condition.holds flags = true) :
        (dropRepeated seen' (selected flags rest)).1 =
          ((rest.zipIdx (done.length + 1)).filter fun d' =>
            isFirstHolding flags (done ++ d :: rest) d'.1 d'.2).map (·.1.value) := by
      have hdone := ih (done ++ [d]) seen' (by
        intro name
        rw [hseen', hseen]
        simp only [List.mem_append, List.mem_singleton, or_and_right, exists_or, exists_eq_left])
      rw [List.length_append, List.append_assoc] at hdone
      exact hdone
    have hfirst : isFirstHolding flags (done ++ d :: rest) d done.length =
        (d.condition.holds flags && !seen.contains d.value.name) := by
      unfold isFirstHolding
      rw [List.take_left, Bool.eq_iff_iff]
      simp [hseen]
    rw [selected_cons, List.zipIdx_cons, List.filter_cons]
    dsimp only
    rw [hfirst]
    by_cases hholds : d.condition.holds flags = true
    · by_cases hmem : d.value.name ∈ seen
      · have hcontains := List.contains_iff_mem.2 hmem
        rw [if_pos hholds, dropRepeated, if_pos hcontains, hholds, hcontains]
        refine hrest seen ?_
        intro name
        refine (or_iff_left_of_imp ?_).symm
        rintro ⟨rfl, -⟩
        exact hmem
      · have hcontains : seen.contains d.value.name = false :=
          Bool.eq_false_iff.2 fun h => hmem (List.contains_iff_mem.1 h)
        rw [if_pos hholds, dropRepeated, hcontains, hholds]
        refine congrArg (d.value :: ·) (hrest (d.value.name :: seen) ?_)
        intro name
        rw [List.mem_cons, or_comm, eq_comm, and_iff_left hholds]
    · rw [if_neg hholds, if_neg (by simp [hholds])]
      refine hrest seen ?_
      intro name
      exact (or_iff_left fun h => hholds h.2).symm

/-- What is left after dropping repetitions are different packages, none of which was seen. -/
theorem nodup_dropRepeated (seen : List String) (packages : List PackageRef) :
    ((dropRepeated seen packages).1.map (·.name)).Nodup ∧
      ∀ p ∈ (dropRepeated seen packages).1, p.name ∉ seen := by
  induction packages generalizing seen with
  | nil => simp [dropRepeated]
  | cons p rest ih =>
    unfold dropRepeated
    by_cases h : p.name ∈ seen
    · rw [if_pos (List.contains_iff_mem.2 h)]
      exact ih seen
    · rw [if_neg (fun hc => h (List.contains_iff_mem.1 hc))]
      obtain ⟨hnodup, hnew⟩ := ih (p.name :: seen)
      dsimp only
      refine ⟨?_, ?_⟩
      · rw [List.map_cons, List.nodup_cons]
        refine ⟨?_, hnodup⟩
        intro hmem
        obtain ⟨q, hq, hname⟩ := List.mem_map.1 hmem
        exact hnew q hq (by rw [hname]; exact List.mem_cons_self)
      · intro q hq hmem
        rcases List.mem_cons.1 hq with rfl | hq
        · exact h hmem
        · exact hnew q hq (List.mem_cons_of_mem p.name hmem)

/-- Among different packages, none of which was seen, there is nothing to drop. -/
theorem dropRepeated_of_nodup {seen : List String} {packages : List PackageRef}
    (hnodup : (packages.map (·.name)).Nodup) (hnew : ∀ p ∈ packages, p.name ∉ seen) :
    dropRepeated seen packages = (packages, []) := by
  induction packages generalizing seen with
  | nil => rfl
  | cons p rest ih =>
    rw [List.map_cons, List.nodup_cons] at hnodup
    have hp : p.name ∉ seen := hnew p List.mem_cons_self
    have hrest : dropRepeated (p.name :: seen) rest = (rest, []) := by
      refine ih hnodup.2 ?_
      intro q hq hmem
      rcases List.mem_cons.1 hmem with hname | hmem
      · exact hnodup.1 (by rw [← hname]; exact List.mem_map_of_mem hq)
      · exact hnew q (List.mem_cons_of_mem p hq) hmem
    rw [dropRepeated, if_neg (fun hc => hp (List.contains_iff_mem.1 hc)), hrest]

/-- In a consistent schema nothing is dropped, whatever the flags. -/
theorem dropRepeated_of_consistent {schema : Schema} (h : schema.Consistent) :
    dropRepeated [] (selected flags schema.requirements) =
      (selected flags schema.requirements, []) := by
  refine dropRepeated_of_nodup ?_ (fun _ _ => List.not_mem_nil)
  unfold selected
  rw [List.map_map]
  exact (List.filter_sublist.map _).nodup h.packages_nodup

end Resolution

open Resolution in
/-- A resolution requires, in the order of declaration, exactly the requirements whose condition
holds and that have no earlier one of the same package whose condition holds as well. Their packages
are different. If the schema passes its check these are all requirements whose condition holds, and
none is dropped. -/
theorem requirements_eq_firstHolding (schema : Schema) (identity : Identity)
    (flags : NormalizedFlags) (standard : Option Standard) :
    (resolve schema identity flags standard).requirements =
        firstHolding flags schema.requirements ∧
      ((resolve schema identity flags standard).requirements.map (·.name)).Nodup ∧
      (schema.check = .ok () →
        (resolve schema identity flags standard).requirements =
            (schema.requirements.filter fun d => d.condition.holds flags).map (·.value) ∧
          (dropRepeated [] (selected flags schema.requirements)).2 = []) := by
  refine ⟨?_, ?_, ?_⟩
  · exact dropRepeated_selected flags [] schema.requirements [] (by simp)
  · exact (nodup_dropRepeated [] (selected flags schema.requirements)).1
  · intro hcheck
    have hall := dropRepeated_of_consistent flags ((Schema.check_eq_ok_iff schema).1 hcheck)
    show (dropRepeated [] (selected flags schema.requirements)).1 = _ ∧ _
    rw [hall]
    exact ⟨rfl, rfl⟩

/-- The first requirement is off, so the second one counts and the third one is dropped. -/
example : firstHolding ⟨[⟨"json", false, false⟩]⟩
    [.whenOn "json" ⟨"fmt", "8"⟩, .always ⟨"fmt", "9"⟩, .always ⟨"fmt", "10"⟩] =
      [⟨"fmt", "9"⟩] := by decide

end RecipeResolver
