import Mathlib.Tactic.SplitIfs
import RecipeResolver.Files.Tree
import RecipeResolver.Proofs.Report.Outcome

/-!
# A file that was written is found where it was written

Writing and reading follow a path in different ways: the writer needs the folder of the last step
and refuses what can only be a folder, and the reader follows all steps at once. Here the two are
brought together. The place at which a path may be written is the place that it leads to
(`locate_of_writablePlace`). There was no folder at this place, so no path led through it, and what
is put there changes no other path (`follow_put`).
-/

namespace RecipeResolver

/-! ## The last step of a path -/

namespace Paths

theorem endsWith_slash_iff (path : String) :
    path.endsWith "/" = true ↔ ['/'] <:+ path.toList := by
  show path.toSlice.endsWith "/" = true ↔ _
  rw [String.Slice.endsWith_string_iff, String.copy_toSlice]
  rfl

/-- A path that does not end in a slash ends in its last step. -/
theorem steps_of_lastStep? {path last : String} {before : List String}
    (h : lastStep? path = some (before, last)) (hslash : ¬path.endsWith "/" = true) :
    steps path = before ++ [last] := by
  cases hreverse : (steps path).reverse with
  | nil =>
    unfold lastStep? at h
    rw [hreverse] at h
    cases h
  | cons final earlier =>
    have hsteps : steps path = earlier.reverse ++ [final] := by
      rw [← List.reverse_cons, ← hreverse, List.reverse_reverse]
    have hfinal : final ≠ "" := by
      rintro rfl
      have hlast : (steps path).getLast? = some "" := by rw [hsteps, List.getLast?_concat]
      unfold steps at hlast
      rw [List.getLast?_map, Option.map_eq_some_iff] at hlast
      obtain ⟨piece, hpiece, hempty⟩ := hlast
      rw [String.ofList_eq_empty_iff.1 hempty] at hpiece
      rcases Text.suffix_of_getLast?_pieces hpiece with hnil | hend
      · -- an empty path has no last step
        have hnone : lastStep? "" = none := by decide
        rw [String.toList_eq_nil_iff.1 hnil, hnone] at h
        cases h
      · exact hslash ((endsWith_slash_iff path).2 hend)
    unfold lastStep? at h
    rw [hreverse, List.dropWhile_cons_of_neg (by simpa using hfinal)] at h
    cases h
    exact hsteps

end Paths

namespace FileTree

variable {t : FileTree}

theorem node?_put (place : List String) (node : FileNode) (p : List String) :
    (t.put place node).node? p = if p = place then some node else t.node? p := rfl

/-! ## Following steps -/

theorem follow_append (place : List String) (a b : List String) :
    t.follow place (a ++ b) = (t.follow place a).bind fun q => t.follow q b := by
  induction a generalizing place with
  | nil => rfl
  | cons step rest ih =>
    rw [List.cons_append, follow, follow]
    cases t.node? place with
    | none => rfl
    | some node =>
      cases node with
      | file content => rfl
      | sealed => rfl
      | folder =>
        simp only [ih]
        split_ifs <;> rfl

/-- A step is made only in a folder. -/
theorem node?_of_follow_cons {step : String} {steps p q : List String}
    (h : t.follow p (step :: steps) = .ok q) : t.node? p = some .folder := by
  rw [follow] at h
  cases hnode : t.node? p with
  | none =>
    rw [hnode] at h
    cases h
  | some node =>
    rw [hnode] at h
    cases node with
    | file content => cases h
    | sealed => cases h
    | folder => rfl

/-- What is put where no folder was changes no path that could be followed. -/
theorem follow_put {place : List String} (hplace : t.node? place ≠ some .folder)
    (node : FileNode) {steps : List String} {p q : List String} (h : t.follow p steps = .ok q) :
    (t.put place node).follow p steps = .ok q := by
  induction steps generalizing p with
  | nil => exact h
  | cons step rest ih =>
    -- the path leads through a folder here, so this is not the place that changed
    have hfolder := node?_of_follow_cons h
    have hne : p ≠ place := by
      rintro rfl
      exact hplace hfolder
    have hput : (t.put place node).node? p = some .folder := by
      rw [node?_put, if_neg hne, hfolder]
    rw [follow, hfolder] at h
    rw [follow, hput]
    dsimp only at h ⊢
    split_ifs at h ⊢
    · exact ih h
    · exact ih h
    · exact ih h

/-! ## The place of a file -/

/-- An empty step stays where it is. -/
theorem eq_of_follow_empty {p q : List String} (h : t.follow p [""] = .ok q) : p = q := by
  have hfolder := node?_of_follow_cons h
  rw [follow, hfolder] at h
  dsimp only at h
  rw [if_pos (by decide)] at h
  exact Except.ok.inj h

/-- The folder of the last step is where the steps before it lead to. -/
theorem follow_of_lastStep? {path last : String} {folder : List String}
    (h : t.lastStep? path = .ok (some (folder, last))) :
    ∃ start before, t.start path = .ok start ∧ Paths.lastStep? path = some (before, last) ∧
      t.follow start before = .ok folder := by
  obtain ⟨start, hstart, h⟩ := bind_eq_ok_iff.1 h
  cases hlast : Paths.lastStep? path with
  | none =>
    rw [hlast] at h
    cases h
  | some found =>
    obtain ⟨before, last'⟩ := found
    rw [hlast] at h
    obtain ⟨folder', hfolder, h⟩ := bind_eq_ok_iff.1 h
    rw [follow_append] at hfolder
    obtain ⟨q, hbefore, hidle⟩ := bind_eq_ok_iff.1 hfolder
    have hq := eq_of_follow_empty hidle
    subst hq
    by_cases hdots : last' = "." ∨ last' = ".."
    · rw [if_pos hdots] at h
      cases h
    · rw [if_neg hdots] at h
      cases h
      exact ⟨start, before, hstart, rfl, hbefore⟩

/-- A path may be written at the place that it leads to, and there is no folder at it. -/
theorem locate_of_writablePlace {path : String} {place : List String}
    (h : t.writablePlace path = .ok place) :
    t.locate path = .ok place ∧ t.node? place ≠ some .folder := by
  obtain ⟨found, hfound, h⟩ := bind_eq_ok_iff.1 h
  cases found with
  | none => cases h
  | some found =>
    obtain ⟨folder, last⟩ := found
    dsimp only at h
    by_cases hslash : path.endsWith "/" = true
    · rw [if_pos hslash] at h
      cases h
    rw [if_neg hslash] at h
    obtain ⟨place', hplace, h⟩ := bind_eq_ok_iff.1 h
    have hfree : t.node? place' ≠ some .folder ∧ place' = place := by
      cases hnode : t.node? place' with
      | none =>
        rw [hnode] at h
        cases h
        exact ⟨by simp, rfl⟩
      | some node =>
        rw [hnode] at h
        cases node with
        | folder => cases h
        | sealed => cases h
        | file content =>
          cases h
          exact ⟨by simp, rfl⟩
    obtain ⟨hfree, rfl⟩ := hfree
    obtain ⟨start, before, hstart, hlast, hbefore⟩ := follow_of_lastStep? hfound
    refine ⟨?_, hfree⟩
    -- the reader makes the last step from the same folder
    unfold locate
    rw [hstart, Paths.steps_of_lastStep? hlast hslash]
    show t.follow start (before ++ [last]) = _
    rw [follow_append, hbefore]
    exact hplace

/-! ## Reading and writing -/

/-- Writing changes what is at the place that may be written, and nothing else. -/
theorem write_of_writable {path : String} {place : List String}
    (h : t.writablePlace path = .ok place) (content : ByteArray) :
    t.write path content = .ok (t.put place (.file content)) := by
  unfold write
  rw [h]
  rfl

theorem write_of_not_writable {path : String} {e : FileError}
    (h : t.writablePlace path = .error e) (content : ByteArray) :
    t.write path content = .error e := by
  unfold write
  rw [h]
  rfl

/-- What was written is read back by the same path. -/
theorem read_put {path : String} {place : List String} (h : t.writablePlace path = .ok place)
    (content : ByteArray) : (t.put place (.file content)).read path = .ok content := by
  obtain ⟨hlocate, hfree⟩ := locate_of_writablePlace h
  obtain ⟨start, hstart, hsteps⟩ := bind_eq_ok_iff.1 hlocate
  have hlocate' : (t.put place (.file content)).locate path = .ok place := by
    show (t.start path).bind _ = _
    rw [hstart]
    exact follow_put hfree (.file content) hsteps
  have hnode : (t.put place (.file content)).node? place = some (.file content) := by
    rw [node?_put, if_pos rfl]
  unfold read
  rw [hlocate']
  dsimp only [bind, Except.bind]
  rw [hnode]

end FileTree

end RecipeResolver
