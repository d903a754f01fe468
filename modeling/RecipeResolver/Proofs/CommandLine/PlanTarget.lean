import RecipeResolver.CommandLine.Commands
import RecipeResolver.Proofs.Files.Writing

/-!
# What a failed plan does to the file for its metadata

The file for the metadata is made as soon as the arguments are understood, and that is before the
recipe is resolved. So it matters at which stage a plan fails. If the request cannot be made or the
file cannot, then nothing has changed. In all later stages, for a recipe that is rejected and for a
driver that fails alike, the file is there and is empty, whatever it held before.
-/

namespace RecipeResolver.CommandLine

section Stages

variable {stdout : Sink} {e : Environment} {c : Common} {a : RecipeArguments} {json : Bool}
  {target : Option String} {f : Failure}

/-! ## The stages of the command -/

/-- A request that cannot be made ends the command. -/
theorem planCommandTo_of_refused (h : (request e c a).result = .error f) :
    (planCommandTo stdout e c a json target).failure = some f ∧
      (planCommandTo stdout e c a json target).files = e.files := by
  unfold planCommandTo
  dsimp only
  rw [h]
  exact ⟨rfl, rfl⟩

/-- A file that cannot be made ends the command. -/
theorem planCommandTo_of_uncreated {r : Request} (hr : (request e c a).result = .ok r)
    (h : emptyTarget e.files target = .error f) :
    (planCommandTo stdout e c a json target).failure = some f ∧
      (planCommandTo stdout e c a json target).files = e.files := by
  unfold planCommandTo
  dsimp only
  rw [hr, h]
  exact ⟨rfl, rfl⟩

/-- When the file is made, the command fails as the run does, and leaves the file as it is then. -/
theorem planCommandTo_of_created {r : Request} (hr : (request e c a).result = .ok r)
    {files : FileTree} (h : emptyTarget e.files target = .ok files)
    (hf : (planCommandTo stdout e c a json target).failure = some f) :
    (r.run files (planDriver json) planRegistry ⟨stdout, .unlimited⟩).2.result = .error f ∧
      (planCommandTo stdout e c a json target).files = files := by
  unfold planCommandTo at hf ⊢
  dsimp only at hf ⊢
  rw [hr, h] at hf ⊢
  dsimp only at hf ⊢
  cases hrun : (r.run files (planDriver json) planRegistry ⟨stdout, .unlimited⟩).2.result with
  | ok resolution =>
    rw [hrun] at hf
    cases hf
  | error f' =>
    rw [hrun] at hf
    cases hf
    exact ⟨rfl, rfl⟩

theorem emptyTarget_of_writable {files : FileTree} {path : String} {place : List String}
    (h : files.writablePlace path = .ok place) :
    emptyTarget files (some path) = .ok (files.put place (.file .empty)) := by
  unfold emptyTarget
  dsimp only
  rw [FileTree.write_of_writable h]

theorem emptyTarget_of_not_writable {files : FileTree} {path : String} {error : FileError}
    (h : files.writablePlace path = .error error) :
    emptyTarget files (some path) = .error ⟨[.creating path], .file error⟩ := by
  unfold emptyTarget
  dsimp only
  rw [FileTree.write_of_not_writable h]

end Stages

/-! ## A plan that fails -/

/-- A plan that fails has changed nothing if it did so for its arguments or because the file for the
metadata cannot be made. Otherwise it was the run that failed, and this file is empty, while what is
at every other place is as before. -/
theorem failed_plan_empties_its_target (stdout : Sink) (e : Environment) (c : Common)
    (a : RecipeArguments) (json : Bool) (path : String) {f : Failure}
    (h : (planCommandTo stdout e c a json (some path)).failure = some f) :
    let after := (planCommandTo stdout e c a json (some path)).files
    ((request e c a).result = .error f ∧ after = e.files) ∨
      (∃ error, e.files.writablePlace path = .error error ∧ f = ⟨[.creating path], .file error⟩ ∧
        after = e.files) ∨
      ∃ r place, (request e c a).result = .ok r ∧ e.files.writablePlace path = .ok place ∧
        (r.run after (planDriver json) planRegistry ⟨stdout, .unlimited⟩).2.result = .error f ∧
        after = e.files.put place (.file .empty) ∧ after.read path = .ok .empty := by
  intro after
  cases hr : (request e c a).result with
  | error f' =>
    rw [(planCommandTo_of_refused hr).1] at h
    cases h
    exact .inl ⟨rfl, (planCommandTo_of_refused hr).2⟩
  | ok r =>
    right
    cases hplace : e.files.writablePlace path with
    | error error =>
      have hempty := emptyTarget_of_not_writable hplace
      obtain ⟨hfailure, hfiles⟩ := planCommandTo_of_uncreated hr hempty
      rw [hfailure] at h
      cases h
      exact .inl ⟨error, rfl, rfl, hfiles⟩
    | ok place =>
      -- from here on the file is empty, and nothing puts back what it held
      have hempty := emptyTarget_of_writable hplace
      obtain ⟨hrun, hfiles⟩ := planCommandTo_of_created hr hempty h
      have hafter : after = e.files.put place (.file .empty) := hfiles
      refine .inr ⟨r, place, rfl, rfl, ?_, hafter, ?_⟩
      · rw [hafter]
        exact hrun
      · rw [hafter]
        exact FileTree.read_put hplace .empty

/-- A plan for which the standard output has no room fails in its driver. -/
theorem plan_without_room_empties_its_target :
    let files := (FileTree.empty.put ["VERSION"] (.file "1.4.2\n".toUTF8)).put ["old.json"]
      (.file "old text".toUTF8)
    let e : Environment := { files, home := none, revision := none }
    let c : Common :=
      { verbose := false, revision := none, recipeFolder := ".", unknownCompiler := none }
    let a : RecipeArguments := { options := [], settings := ["compiler=gcc", "compiler.version=9"] }
    let done := planCommandTo (.upTo 10) e c a false (some "old.json")
    done.failure.isSome = true ∧ (files.read "old.json").toOption = some "old text".toUTF8 ∧
      done.files = files.put ["old.json"] (.file .empty) ∧ done.files.read "old.json" = .ok .empty := by
  intro files e c a done
  have hfailed : done.failure.isSome = true := by decide +kernel
  have hrequest : (request e c a).result.toOption.isSome = true := by decide +kernel
  have hplace : (files.writablePlace "old.json").toOption = some ["old.json"] := by decide +kernel
  obtain ⟨f, hf⟩ := Option.isSome_iff_exists.1 hfailed
  refine ⟨hfailed, by decide +kernel, ?_⟩
  rcases failed_plan_empties_its_target (.upTo 10) e c a false "old.json" hf with
    ⟨hrefused, -⟩ | ⟨error, hnone, -⟩ | ⟨r, place, -, hsome, -, hafter, hread⟩
  · rw [hrefused] at hrequest
    cases hrequest
  · rw [show files.writablePlace "old.json" = .error error from hnone] at hplace
    cases hplace
  · rw [show files.writablePlace "old.json" = .ok place from hsome] at hplace
    cases hplace
    exact ⟨hafter, hread⟩

/-- A toolchain that is too old is rejected after the file was emptied, so the metadata of an earlier
run is lost. -/
theorem failed_plan_loses_metadata :
    let files := (FileTree.empty.put ["VERSION"] (.file "1.4.2\n".toUTF8)).put ["old.json"]
      (.file "old text".toUTF8)
    let done := execute { files, home := none, revision := none }
      ["plan", "-s", "compiler=gcc", "-s", "compiler.version=7", "--metadata-out", "old.json"]
    done.exitCode = 1 ∧ (files.read "old.json").toOption = some "old text".toUTF8 ∧
      (done.files.read "old.json").toOption = some .empty := by
  intro files done
  refine ⟨?_, ?_, ?_⟩
  · decide +kernel
  · decide +kernel
  · decide +kernel

end RecipeResolver.CommandLine
