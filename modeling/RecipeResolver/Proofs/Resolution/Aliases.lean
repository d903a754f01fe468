import Mathlib.Data.List.Sort
import RecipeResolver.Proofs.Text.ByteOrder
import RecipeResolver.Resolution.Basic

/-!
# The names of a package

The aliases of a package are collected from five places and sorted by insertion. Two lists in
strictly ascending order with the same members are equal, so a list of aliases is known as soon as
its order (`pairwise_sortedDistinct`) and its members (`mem_aliases_iff`) are known. This settles
both that components may stand in any order and what the aliases of a resolution are.
-/

namespace RecipeResolver

/-! ## Sorted lists -/

section Sorted

variable {s t : String} {texts : List String}

theorem mem_insertDistinct : t ∈ insertDistinct s texts ↔ t = s ∨ t ∈ texts := by
  induction texts with
  | nil => simp [insertDistinct]
  | cons head rest ih =>
    unfold insertDistinct
    split
    · exact List.mem_cons
    split
    · next heq => simp [heq]
    · rw [List.mem_cons, List.mem_cons, ih, or_left_comm]

theorem pairwise_insertDistinct (h : texts.Pairwise (· < ·)) :
    (insertDistinct s texts).Pairwise (· < ·) := by
  induction texts with
  | nil => exact List.pairwise_singleton _ _
  | cons head rest ih =>
    obtain ⟨hhead, hrest⟩ := List.pairwise_cons.1 h
    unfold insertDistinct
    split
    · next hlt =>
      refine List.pairwise_cons.2 ⟨fun t ht => ?_, h⟩
      rcases List.mem_cons.1 ht with rfl | ht
      · exact hlt
      · exact String.lt_trans hlt (hhead t ht)
    split
    · exact h
    · next hlt hne =>
      refine List.pairwise_cons.2 ⟨fun t ht => ?_, ih hrest⟩
      rcases mem_insertDistinct.1 ht with rfl | ht
      · exact Std.lt_of_le_of_ne (String.not_lt.1 hlt) (Ne.symm hne)
      · exact hhead t ht

theorem mem_sortedDistinct : t ∈ sortedDistinct texts ↔ t ∈ texts := by
  induction texts with
  | nil => rfl
  | cons head rest ih =>
    show t ∈ insertDistinct head (sortedDistinct rest) ↔ _
    rw [mem_insertDistinct, ih, List.mem_cons]

theorem pairwise_sortedDistinct (texts : List String) :
    (sortedDistinct texts).Pairwise (· < ·) := by
  induction texts with
  | nil => exact .nil
  | cons head rest ih => exact pairwise_insertDistinct ih

/-- Texts in strictly ascending order are what is left of any list with the same members. -/
theorem sortedDistinct_eq {sorted : List String} (hsorted : sorted.Pairwise (· < ·))
    (hmem : ∀ t, t ∈ texts ↔ t ∈ sorted) : sortedDistinct texts = sorted :=
  (pairwise_sortedDistinct texts).eq_of_mem_iff hsorted fun t => mem_sortedDistinct.trans (hmem t)

theorem sortedDistinct_eq_pair (h : s < t) (hmem : ∀ u, u ∈ texts ↔ u = s ∨ u = t) :
    sortedDistinct texts = [s, t] :=
  sortedDistinct_eq (List.pairwise_pair.2 h) fun u => by rw [hmem, List.mem_pair]

end Sorted

theorem ascending_of_keys {κ ν : Type} [Ord κ] {entries : List (κ × ν)} (keys : List κ)
    (h : entries.map Prod.fst = keys) (hkeys : keys.Pairwise (compare · · = .lt)) :
    Ascending entries := by
  rw [← h] at hkeys
  exact List.pairwise_map.1 hkeys

theorem OrderedMap.mem_values_iff {κ ν : Type} [Ord κ] [Std.TransOrd κ] [Std.LawfulEqOrd κ]
    {m : OrderedMap κ ν} {value : ν} : value ∈ m.values ↔ ∃ key, m.find? key = some value := by
  unfold values
  rw [List.mem_map]
  constructor
  · rintro ⟨⟨key, v⟩, hentry, rfl⟩
    exact ⟨key, mem_entries_iff.1 hentry⟩
  · rintro ⟨key, hkey⟩
    exact ⟨(key, value), mem_entries_iff.2 hkey, rfl⟩

namespace PackageMetadata

variable {m : PackageMetadata}

/-- A name of a package: its own, one that a build tool or a property knows it by, or one that a
build tool or a property knows a component by. -/
inductive IsKnownAs (m : PackageMetadata) : String → Prop
  | own : IsKnownAs m m.name
  | tool {tool : Generator} {name : String} (h : m.names.find? tool = some name) :
      IsKnownAs m name
  | file {tool : Generator} {name : String} (h : m.filenames.find? tool = some name) :
      IsKnownAs m name
  | property {key name : String} (h : m.properties.find? key = some name) : IsKnownAs m name
  | componentTool {c : Component} {tool : Generator} {name : String} (hc : c ∈ m.components)
      (h : c.names.find? tool = some name) : IsKnownAs m name
  | componentProperty {c : Component} {key name : String} (hc : c ∈ m.components)
      (h : c.properties.find? key = some name) : IsKnownAs m name

theorem mem_allNames_iff {name : String} : name ∈ m.allNames ↔ m.IsKnownAs name := by
  unfold allNames
  rw [List.mem_cons, List.mem_append, List.mem_append, List.mem_append, List.mem_flatMap,
    OrderedMap.mem_values_iff, OrderedMap.mem_values_iff, OrderedMap.mem_values_iff]
  constructor
  · rintro (rfl | ((⟨_, h⟩ | ⟨_, h⟩) | ⟨_, h⟩) | ⟨c, hc, h⟩)
    · exact .own
    · exact .tool h
    · exact .file h
    · exact .property h
    · rw [List.mem_append, OrderedMap.mem_values_iff, OrderedMap.mem_values_iff] at h
      rcases h with ⟨_, h⟩ | ⟨_, h⟩
      · exact .componentTool hc h
      · exact .componentProperty hc h
  · intro h
    have hcomponent {c : Component} (hc : c ∈ m.components)
        (hname : name ∈ c.names.values ∨ name ∈ c.properties.values) :
        ∃ c ∈ m.components, name ∈ c.names.values ++ c.properties.values :=
      ⟨c, hc, List.mem_append.2 hname⟩
    cases h with
    | own => exact .inl rfl
    | tool h => exact .inr (.inl (.inl (.inl ⟨_, h⟩)))
    | file h => exact .inr (.inl (.inl (.inr ⟨_, h⟩)))
    | property h => exact .inr (.inl (.inr ⟨_, h⟩))
    | componentTool hc h =>
      exact .inr (.inr (hcomponent hc (.inl (OrderedMap.mem_values_iff.2 ⟨_, h⟩))))
    | componentProperty hc h =>
      exact .inr (.inr (hcomponent hc (.inr (OrderedMap.mem_values_iff.2 ⟨_, h⟩))))

theorem mem_aliases_iff {name : String} : name ∈ m.aliases ↔ m.IsKnownAs name :=
  mem_sortedDistinct.trans mem_allNames_iff

/-- The names of a package with the same components in another order. -/
theorem isKnownAs_of_perm {components : List Component} (h : m.components.Perm components)
    {name : String} (hname : m.IsKnownAs name) : { m with components }.IsKnownAs name := by
  cases hname with
  | own => exact .own
  | tool h => exact .tool h
  | file h => exact .file h
  | property h => exact .property h
  | componentTool hc hname => exact .componentTool (h.mem_iff.1 hc) hname
  | componentProperty hc hname => exact .componentProperty (h.mem_iff.1 hc) hname

end PackageMetadata

/-! ## The names of a resolution -/

/-- The published names of a package are its own and that of its target. -/
theorem Resolution.isKnownAs_published_iff {package name : String}
    {defines requires : List String} :
    (publishedMetadata package defines requires).IsKnownAs name ↔
      name = package ∨ name = target package := by
  have hall : Ascending (Generator.all.map fun g => (g, package)) :=
    ascending_of_keys Generator.all rfl (by decide)
  have hcmake : Ascending (Generator.cmake.map fun g => (g, package)) :=
    ascending_of_keys Generator.cmake rfl (by decide)
  have hproperties : Ascending
      [("cmake_file_name", package), ("cmake_target_name", target package),
        ("pkg_config_name", package)] :=
    ascending_of_keys ["cmake_file_name", "cmake_target_name", "pkg_config_name"] rfl (by decide)
  have hcomponent : Ascending
      [("cmake_target_name", target package), ("pkg_config_name", package)] :=
    ascending_of_keys ["cmake_target_name", "pkg_config_name"] rfl (by decide)
  rw [← PackageMetadata.mem_allNames_iff]
  unfold PackageMetadata.allNames publishedMetadata OrderedMap.values
  rw [List.flatMap_singleton, OrderedMap.entries_ofList hall, OrderedMap.entries_ofList hcmake,
    OrderedMap.entries_ofList hproperties, OrderedMap.entries_ofList hcomponent]
  simp only [Generator.all, Generator.cmake, List.map_cons, List.map_nil, List.cons_append,
    List.nil_append, List.mem_cons, List.not_mem_nil, or_false]
  tauto

theorem Resolution.aliases_published (package : String) (defines requires : List String) :
    (publishedMetadata package defines requires).aliases =
      if package < target package then [package, target package]
      else [target package, package] := by
  have hmem (name : String) : name ∈ (publishedMetadata package defines requires).allNames ↔
      name = package ∨ name = target package :=
    PackageMetadata.mem_allNames_iff.trans isKnownAs_published_iff
  unfold PackageMetadata.aliases
  split
  · next hlt => exact sortedDistinct_eq_pair hlt hmem
  · next hnot =>
    -- the target has the longer name, so it is another one
    have hne : target package ≠ package := by
      intro h
      have hlength : (target package).length = 6 + package.length :=
        String.length_append "octo::" package
      rw [h] at hlength
      omega
    have hlt := Std.lt_of_le_of_ne (String.not_lt.1 hnot) hne
    exact sortedDistinct_eq_pair hlt fun name => (hmem name).trans or_comm

namespace PackageMetadata

/-- The aliases of a package are in strictly ascending order of their bytes, so each stands there
once, and they are the names that the package or one of its components is known by. So components
may stand in any order. A resolution publishes the name of its package and that of the target, in
the order of their bytes. -/
theorem aliases_are_names_in_order :
    (∀ m : PackageMetadata, m.aliases.Pairwise (utf8 · < utf8 ·) ∧
      m.aliases.Nodup ∧ ∀ name, name ∈ m.aliases ↔ m.IsKnownAs name) ∧
    (∀ (m : PackageMetadata) (components : List Component), m.components.Perm components →
      { m with components }.aliases = m.aliases) ∧
    ∀ (schema : Schema) (identity : Identity) (flags : NormalizedFlags)
      (standard : Option Standard),
      let target := "octo::" ++ identity.name
      (resolve schema identity flags standard).metadata.aliases =
        if utf8 identity.name < utf8 target then [identity.name, target]
        else [target, identity.name] := by
  refine ⟨fun m => ⟨?_, ?_, fun name => mem_aliases_iff⟩, fun m components h => ?_, ?_⟩
  · exact (pairwise_sortedDistinct m.allNames).imp utf8_lt_iff.2
  · exact (pairwise_sortedDistinct m.allNames).imp Std.ne_of_lt
  · refine sortedDistinct_eq (pairwise_sortedDistinct _) fun name => ?_
    rw [mem_allNames_iff]
    refine Iff.trans ?_ mem_aliases_iff.symm
    exact ⟨isKnownAs_of_perm h.symm, isKnownAs_of_perm h⟩
  · intro schema identity flags standard target
    simp only [utf8_lt_iff]
    exact Resolution.aliases_published identity.name _ _

-- a name that comes late in the alphabet comes after its target
example : (Resolution.publishedMetadata "zlib" [] []).aliases = ["octo::zlib", "zlib"] := by
  decide +kernel

end PackageMetadata

end RecipeResolver
