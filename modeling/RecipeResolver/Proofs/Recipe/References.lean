import RecipeResolver.Proofs.Recipe.VersionFiles
import RecipeResolver.Recipe.Schema

/-!
# References to packages

A reference is read by cutting a text at its first slash. So it is read back from its written form
as long as the name has no slash, while the version may have any number of them
(`PackageRef.parse?_eq_some_iff`). The package that a recipe builds is such a package: its name is
fixed, and a version that was loaded from a file is not empty.
-/

namespace RecipeResolver

namespace PackageRef

theorem text_eq (r : PackageRef) : r.text = r.name ++ "/" ++ r.version := rfl

/-- The texts that spell a package are its written form, if this form can be cut in the right place
and neither part of it is empty. -/
theorem parse?_eq_some_iff {s : String} {r : PackageRef} : parse? s = some r ↔
    s = r.text ∧ '/' ∉ r.name.toList ∧ r.name ≠ "" ∧ r.version ≠ "" := by
  have hslash : String.singleton '/' = "/" := rfl
  unfold parse?
  rw [text_eq]
  constructor
  · intro h
    cases hcut : Text.cut? '/' s with
    | none =>
      rw [hcut] at h
      cases h
    | some parts =>
      obtain ⟨name, version⟩ := parts
      rw [hcut] at h
      dsimp only at h
      by_cases hempty : name = "" ∨ version = ""
      · rw [if_pos hempty] at h
        cases h
      · rw [if_neg hempty] at h
        obtain rfl := Option.some.inj h
        rw [not_or] at hempty
        obtain ⟨hs, hname⟩ := Text.cut?_eq_some_iff.1 hcut
        exact ⟨hs, hname, hempty⟩
  · rintro ⟨hs, hname, hempty⟩
    have hcut : Text.cut? '/' s = some (r.name, r.version) :=
      Text.cut?_eq_some_iff.2 ⟨hs, hname⟩
    rw [hcut]
    dsimp only
    rw [if_neg (not_or.2 hempty)]

/-- The parts of a text lie before its first slash and behind it. -/
theorem idxOf_slash {s before after : String} (h : Text.cut? '/' s = some (before, after)) :
    '/' ∈ s.toList ∧ s.toList.idxOf '/' = before.toList.length ∧
      s.toList.length = before.toList.length + 1 + after.toList.length := by
  obtain ⟨rfl, hbefore⟩ := Text.cut?_eq_some_iff.1 h
  have hlist : (before ++ String.singleton '/' ++ after).toList =
      before.toList ++ '/' :: after.toList := by
    rw [String.toList_append, String.toList_append, String.toList_singleton, List.append_assoc,
      List.singleton_append]
  rw [hlist]
  refine ⟨List.mem_append_right _ List.mem_cons_self, ?_, ?_⟩
  · rw [List.idxOf_append, if_neg hbefore, List.idxOf_cons_self, Nat.zero_add]
  · rw [List.length_append, List.length_cons]
    omega

/-- A text spells a package if it has a slash and the first one is neither its first character nor
its last one. -/
theorem exists_parse?_iff {s : String} : (∃ r, parse? s = some r) ↔
    '/' ∈ s.toList ∧ s.toList.idxOf '/' ≠ 0 ∧ s.toList.idxOf '/' + 1 ≠ s.toList.length := by
  unfold parse?
  cases hcut : Text.cut? '/' s with
  | none =>
    have hslash := Text.cut?_eq_none_iff.1 hcut
    exact iff_of_false (by simp) fun h => hslash h.1
  | some parts =>
    obtain ⟨before, after⟩ := parts
    obtain ⟨hslash, hfirst, hlength⟩ := idxOf_slash hcut
    have hempty (part : String) : part = "" ↔ part.toList.length = 0 := by
      rw [List.length_eq_zero_iff, String.toList_eq_nil_iff]
    dsimp only
    by_cases hparts : before = "" ∨ after = ""
    · rw [if_pos hparts]
      rw [hempty, hempty] at hparts
      refine iff_of_false (by simp) fun h => ?_
      omega
    · rw [if_neg hparts]
      rw [hempty, hempty] at hparts
      refine iff_of_true ⟨_, rfl⟩ ⟨hslash, ?_, ?_⟩
      · omega
      · omega

end PackageRef

theorem Schema.identify_eq_ok_iff {s : Schema} {files : FileTree} {folder : String}
    {identity : Identity} : s.identify files folder = .ok identity ↔
      ∃ version, s.versionSource.load files folder = .ok version ∧
        .ofVersion version = identity := by
  unfold identify
  cases s.versionSource.load files folder <;> simp

/-- A schema finds a package that can be referred to, unless its version is written in it and
empty. -/
theorem Schema.parse?_reference_of_identify {s : Schema} {files : FileTree} {folder : String}
    {identity : Identity} (h : s.identify files folder = .ok identity)
    (hliteral : s.versionSource ≠ .literal "") :
    ∃ version, s.versionSource.load files folder = .ok version ∧
      PackageRef.parse? identity.reference = some { name := libraryName, version } := by
  obtain ⟨version, hload, rfl⟩ := identify_eq_ok_iff.1 h
  have hversion : version ≠ "" := by
    cases hsource : s.versionSource with
    | literal text =>
      rw [hsource] at hload hliteral
      obtain rfl := Except.ok.inj hload
      rintro rfl
      exact hliteral rfl
    | file name =>
      rw [hsource] at hload
      exact VersionSource.ne_empty_of_load_file hload
  have hname : '/' ∉ libraryName.toList := by decide
  have hne : libraryName ≠ "" := by decide
  exact ⟨version, hload, PackageRef.parse?_eq_some_iff.2 ⟨rfl, hname, hne, hversion⟩⟩

/-- What is read as a reference is written in the same way. A package is read back from its written
form just if its name and its version are not empty and its name has no slash. A text is a reference
just if it has a slash and the first one is neither its first nor its last character. So whatever
version a recipe has, also one with slashes in it, its reference is read as the library at this
version. -/
theorem references_are_read_back :
    (∀ s r, PackageRef.parse? s = some r → r.text = s) ∧
    (∀ r : PackageRef, PackageRef.parse? r.text = some r ↔
      r.name ≠ "" ∧ r.version ≠ "" ∧ '/' ∉ r.name.toList) ∧
    (∀ s, (∃ r, PackageRef.parse? s = some r) ↔
      '/' ∈ s.toList ∧ s.toList.idxOf '/' ≠ 0 ∧ s.toList.idxOf '/' + 1 ≠ s.toList.length) ∧
    (∀ (s : Schema) files folder identity, s.versionSource ≠ .literal "" →
      s.identify files folder = .ok identity →
        ∃ version, s.versionSource.load files folder = .ok version ∧
          PackageRef.parse? identity.reference = some { name := libraryName, version }) := by
  refine ⟨?_, ?_, fun _ => PackageRef.exists_parse?_iff, ?_⟩
  · intro s r h
    exact (PackageRef.parse?_eq_some_iff.1 h).1.symm
  · intro r
    rw [PackageRef.parse?_eq_some_iff]
    constructor
    · rintro ⟨-, hname, hne, hversion⟩
      exact ⟨hne, hversion, hname⟩
    · rintro ⟨hne, hversion, hname⟩
      exact ⟨rfl, hname, hne, hversion⟩
  · intro s files folder identity hliteral h
    exact s.parse?_reference_of_identify h hliteral

-- the first slash ends the name, so the others belong to the version
example : PackageRef.parse? "octo-logger-cpp/1.2/rc" =
    some { name := "octo-logger-cpp", version := "1.2/rc" } := by
  decide

end RecipeResolver
