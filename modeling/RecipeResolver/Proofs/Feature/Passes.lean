import Mathlib.Data.List.Dedup
import Mathlib.Data.List.Perm.Subperm
import RecipeResolver.Proofs.Feature.Reachability

/-!
# How many passes a closure takes

`Passes rules before passes after` is the loop of the closure as a relation: it goes from the flags
`before` to the flags `after` and fires in each pass what `passes` lists for it. A loop without an
end is in this relation with nothing, so `passes_iff` says that the loop ends.

The bound counts names and not flags. A rule that fires turns its name on for the rest of the run,
so no name is forced twice (`Propagation.distinct`), and every forced name is one of `offNames`.
Each pass but the last one uses up at least one of them.
-/

namespace RecipeResolver

variable {rules : List Implication} {flags before after : List Flag}
  {passes : List (List Implication)}

/-! ## The loop -/

/-- Passes over the rules, up to the first one that fires nothing. -/
inductive Passes (rules : List Implication) :
    List Flag → List (List Implication) → List Flag → Prop
  | idle {flags : List Flag} (h : (sweep rules flags).2 = []) :
      Passes rules flags [[]] (sweep rules flags).1
  | busy {flags after : List Flag} {passes : List (List Implication)}
      (h : (sweep rules flags).2 ≠ []) (rest : Passes rules (sweep rules flags).1 passes after) :
      Passes rules flags ((sweep rules flags).2 :: passes) after

/-- The loop ends, and it takes the passes that a closure lists. -/
theorem passes_closure (rules : List Implication) (flags : List Flag) :
    Passes rules flags (closure rules flags).passes (closure rules flags).flags := by
  induction flags using closure.induct rules with
  | case1 flags hidle =>
    rw [closure, if_pos hidle]
    exact .idle (List.isEmpty_iff.1 hidle)
  | case2 flags hbusy ih =>
    rw [closure, if_neg hbusy]
    exact .busy (fun h => hbusy (List.isEmpty_iff.2 h)) ih

/-- There is one way only to go through the loop. -/
theorem passes_iff : Passes rules before passes after ↔
    passes = (closure rules before).passes ∧ after = (closure rules before).flags := by
  constructor
  · intro h
    induction h with
    | idle h =>
      rw [closure, if_pos (List.isEmpty_iff.2 h)]
      exact ⟨rfl, rfl⟩
    | busy h _ ih =>
      rw [closure, if_neg (fun hempty => h (List.isEmpty_iff.1 hempty)), ih.1, ih.2]
      exact ⟨rfl, rfl⟩
  · rintro ⟨rfl, rfl⟩
    exact passes_closure rules before

/-- Every pass but the last one fires, and the last one does not. -/
theorem Passes.exists_busy (h : Passes rules before passes after) :
    ∃ busy, passes = busy ++ [[]] ∧ ∀ fired ∈ busy, fired ≠ [] := by
  induction h with
  | idle _ => exact ⟨[], rfl, by simp⟩
  | @busy flags after passes h _ ih =>
    obtain ⟨busy, rfl, hbusy⟩ := ih
    refine ⟨(sweep rules flags).2 :: busy, rfl, ?_⟩
    exact List.forall_mem_cons.2 ⟨h, hbusy⟩

/-- There are no more passes than firings and one more. -/
theorem Passes.length_le (h : Passes rules before passes after) :
    passes.length ≤ passes.flatten.length + 1 := by
  induction h with
  | idle _ => simp
  | @busy flags after passes h _ ih =>
    have hfired : 0 < (sweep rules flags).2.length := List.length_pos_iff.2 h
    rw [List.length_cons, List.flatten_cons, List.length_append]
    omega

/-! ## The names that can be forced -/

/-- The declared names that are off, each once. -/
def offNames (flags : List Flag) : List String :=
  (flags.map Flag.name).dedup.filter fun name => !isEnabled flags name

theorem mem_offNames {name : String} : name ∈ offNames flags ↔
    isDeclared flags name = true ∧ isEnabled flags name = false := by
  unfold offNames isDeclared
  rw [List.mem_filter, List.mem_dedup, List.mem_map, Bool.not_eq_true', List.any_eq_true]
  simp only [beq_iff_eq]

/-- What a run forces was declared and off when it began. -/
theorem Propagation.forced_mem_offNames {fired : List Implication}
    (p : Propagation rules before fired after) {r : Implication} (hr : r ∈ fired) :
    r.forced ∈ offNames before :=
  mem_offNames.2 ⟨(p.reached r hr).isDeclared, p.was_off r hr⟩

/-- No more rules fire than there are names to force. -/
theorem Propagation.length_le {fired : List Implication}
    (p : Propagation rules before fired after) : fired.length ≤ (offNames before).length := by
  have hsubset : fired.map Implication.forced ⊆ offNames before := by
    intro name hname
    obtain ⟨r, hr, rfl⟩ := List.mem_map.1 hname
    exact p.forced_mem_offNames hr
  have hlength := (List.subperm_of_subset p.distinct hsubset).length_le
  rwa [List.length_map] at hlength

/-- Whatever the flags and the rules are, the loop of a normalization ends, in one way. Over the
whole run no name is forced twice, and only names are forced that are declared and off at the start.
So no more rules fire than there are such names. Every pass but the last one fires a rule, and there
are at most as many passes as such names and one more. -/
theorem normalize_ends (s : FlagSet) (rules : List Implication) :
    ∃ passes, (∀ passes' after, Passes rules s.flags passes' after ↔
        passes' = passes ∧ after = (s.normalize rules).flags) ∧
      (passes.flatten.map Implication.forced).Nodup ∧
      (∀ r ∈ passes.flatten, r.forced ∈ offNames s.flags) ∧
      passes.flatten.length ≤ (offNames s.flags).length ∧
      (∃ busy, passes = busy ++ [[]] ∧ ∀ fired ∈ busy, fired ≠ []) ∧
      passes.length ≤ (offNames s.flags).length + 1 := by
  have hrun := (closure_propagation rules s.flags).1
  have hpasses := passes_closure rules s.flags
  have hfired : (closure rules s.flags).passes.flatten.length ≤ (offNames s.flags).length :=
    hrun.length_le
  refine ⟨(closure rules s.flags).passes, fun _ _ => passes_iff, hrun.distinct,
    fun r hr => hrun.forced_mem_offNames hr, hfired, hpasses.exists_busy, ?_⟩
  have hlength := hpasses.length_le
  omega

-- a chain that is listed backwards takes as many passes as the bound allows
example :
    let flags : List Flag :=
      [⟨"a", true, false⟩, ⟨"b", false, false⟩, ⟨"c", false, false⟩, ⟨"c", false, true⟩]
    offNames flags = ["b", "c"] ∧ (closure [⟨"b", "c"⟩, ⟨"a", "b"⟩] flags).passes =
      [[⟨"a", "b"⟩], [⟨"b", "c"⟩], []] := by
  cbv

end RecipeResolver
