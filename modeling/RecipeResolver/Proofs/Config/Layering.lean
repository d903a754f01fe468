import Mathlib.Data.List.Sort
import RecipeResolver.Config.Store
import RecipeResolver.Proofs.Recipe.VersionFiles

/-!
# Layers of configuration

An overlay takes each value from the later layer that has one. As an ordered map is known by what is
found in it (`OrderedMap.ext_find?`), the laws of overlays are those of taking the first of two
optional values.

A path at which a configuration is looked for is in one of six states (`Config.stateAt`). Only a
valid file is loaded, and every other state contributes what a missing file does, that is nothing.
-/

namespace RecipeResolver

/-! ## Ordered maps -/

namespace OrderedMap

variable {κ ν : Type} [Ord κ] [Std.TransOrd κ] [Std.LawfulEqOrd κ]

/-- Maps in which the same is found are equal. -/
theorem ext_find? {a b : OrderedMap κ ν} (h : ∀ key, a.find? key = b.find? key) : a = b := by
  have hirrefl : Std.Irrefl fun x y : κ × ν => compare x.1 y.1 = .lt :=
    ⟨fun x hx => by rw [Std.ReflOrd.compare_self] at hx; cases hx⟩
  have hantisymm : Std.Antisymm fun x y : κ × ν => compare x.1 y.1 = .lt :=
    ⟨fun x y hxy hyx => by rw [Std.OrientedCmp.gt_of_lt hxy] at hyx; cases hyx⟩
  refine eq_of_entries (a.ascending.eq_of_mem_iff b.ascending fun ⟨key, value⟩ => ?_)
  rw [mem_entries_iff, mem_entries_iff, h]

theorem merge_assoc (a b c : OrderedMap κ ν) : (a.merge b).merge c = a.merge (b.merge c) :=
  ext_find? fun key => by
    rw [find?_merge, find?_merge, find?_merge, find?_merge, Option.or_assoc]

theorem merge_self (m : OrderedMap κ ν) : m.merge m = m :=
  ext_find? fun key => by rw [find?_merge, Option.or_self]

theorem empty_merge (m : OrderedMap κ ν) : empty.merge m = m :=
  m.ofList_entries

theorem merge_empty (m : OrderedMap κ ν) : m.merge empty = m := rfl

end OrderedMap

/-! ## Paths -/

namespace FileTree

variable {files : FileTree} {path : String}

/-- What a path leads to, if it leads to anything. -/
def nodeAt? (files : FileTree) (path : String) : Option FileNode :=
  (files.locate path).toOption.bind files.node?

theorem exists?_eq_isSome (files : FileTree) (path : String) :
    files.exists? path = (files.nodeAt? path).isSome := by
  unfold exists? nodeAt?
  cases files.locate path <;> rfl

theorem read_eq_ok_iff {content : ByteArray} :
    files.read path = .ok content ↔ files.nodeAt? path = some (.file content) := by
  unfold read nodeAt?
  cases files.locate path with
  | error e => exact iff_of_false (by rintro ⟨⟩) (by rintro ⟨⟩)
  | ok place =>
    dsimp only [bind, Except.bind, Except.toOption, Option.bind]
    rcases files.node? place with _ | _ | _ | _ <;> simp

end FileTree

namespace Config

/-! ## Overlays -/

theorem merge_assoc (a b c : Config) : (a.merge b).merge c = a.merge (b.merge c) := by
  unfold merge
  rw [Option.or_assoc, Option.or_assoc, OrderedMap.merge_assoc, OrderedMap.merge_assoc]

theorem empty_merge (c : Config) : empty.merge c = c := by
  unfold merge empty
  rw [Option.or_none, Option.or_none, OrderedMap.empty_merge, OrderedMap.empty_merge]

theorem merge_empty (c : Config) : c.merge empty = c := by
  unfold merge empty
  rw [Option.none_or, Option.none_or, OrderedMap.merge_empty, OrderedMap.merge_empty]

theorem merge_self (c : Config) : c.merge c = c := by
  unfold merge
  rw [Option.or_self, Option.or_self, OrderedMap.merge_self, OrderedMap.merge_self]

/-! ## Files -/

/-- What there is at a path at which a configuration is looked for. -/
inductive FileState where
  | absent
  | folder
  /-- The file cannot be opened. -/
  | unreadable
  /-- The file is not UTF-8. -/
  | notText
  /-- The text is no document with a configuration. -/
  | refused
  | valid (c : Config)

/-- The state of a path. A path that leads nowhere is as good as one that leads to nothing. -/
def stateAt (files : FileTree) (path : String) : FileState :=
  match files.nodeAt? path with
  | none => .absent
  | some .folder => .folder
  | some .sealed => .unreadable
  | some (.file content) =>
    match String.fromUTF8? content with
    | none => .notText
    | some text => (ofDocument? text).elim .refused .valid

/-- What a path in this state adds to a configuration. -/
def FileState.contribution : FileState → Config
  | valid c => c
  | _ => empty

variable {files : FileTree} {path : String}

theorem stateAt_eq_valid_iff {c : Config} : stateAt files path = .valid c ↔
    ∃ content text, files.nodeAt? path = some (.file content) ∧
      String.fromUTF8? content = some text ∧ ofDocument? text = some c := by
  unfold stateAt
  rcases files.nodeAt? path with _ | content | _ | _
  · simp
  · cases htext : String.fromUTF8? content with
    | none => simp [htext]
    | some text => cases hdocument : ofDocument? text <;> simp [htext, hdocument]
  · simp
  · simp

/-- A file can be loaded exactly if it is valid. -/
theorem load_eq_ok_iff {c : Config} : load files path = .ok c ↔ stateAt files path = .valid c := by
  have hload : load files path = .ok c ↔
      ∃ text, files.readText path = .ok text ∧ ofDocument? text = some c := by
    unfold load
    cases files.readText path with
    | error e => simp
    | ok text => cases hdocument : ofDocument? text <;> simp [hdocument]
  rw [hload, stateAt_eq_valid_iff]
  simp only [FileTree.readText_eq_ok_iff, FileTree.read_eq_ok_iff]
  constructor
  · rintro ⟨text, ⟨content, hnode, htext⟩, hdocument⟩
    exact ⟨content, text, hnode, htext, hdocument⟩
  · rintro ⟨content, text, hnode, htext, hdocument⟩
    exact ⟨text, ⟨content, hnode, htext⟩, hdocument⟩

theorem exists?_of_valid {c : Config} (h : stateAt files path = .valid c) :
    files.exists? path = true := by
  obtain ⟨content, text, hnode, -⟩ := stateAt_eq_valid_iff.1 h
  rw [FileTree.exists?_eq_isSome, hnode]
  rfl

/-- A file that cannot be loaded counts for nothing, whatever the reason. -/
theorem contribution_of_not_loaded (h : ∀ c, load files path ≠ .ok c) :
    (stateAt files path).contribution = empty := by
  cases hstate : stateAt files path with
  | valid c => exact absurd (load_eq_ok_iff.2 hstate) (h c)
  | _ => rfl

theorem loadOrEmpty_eq (files : FileTree) (path : String) :
    loadOrEmpty files path = (stateAt files path).contribution := by
  unfold loadOrEmpty
  cases hload : load files path with
  | ok c =>
    have hvalid := load_eq_ok_iff.1 hload
    rw [exists?_of_valid hvalid, hvalid]
    rfl
  | error f =>
    rw [contribution_of_not_loaded fun c hc => by rw [hload] at hc; cases hc]
    exact ite_self _

theorem layered_eq (files : FileTree) (globalPath projectPath : String) :
    layered files globalPath projectPath =
      (stateAt files globalPath).contribution.merge (stateAt files projectPath).contribution := by
  unfold layered
  rw [loadOrEmpty_eq, loadOrEmpty_eq, empty_merge]

/-- Overlays can be grouped in any way, the configuration that says nothing changes nothing, and
neither does an overlay with the same configuration again. In an overlay each value comes from the
later layer if it has one. The configuration of two paths is that of their valid files, the first
one overlaid with the second. A file that cannot be loaded, be it one or the other, counts as if it
were not there. -/
theorem layered_overlays_valid_files :
    (∀ a b c : Config, (a.merge b).merge c = a.merge (b.merge c)) ∧
    (∀ c : Config, empty.merge c = c ∧ c.merge empty = c ∧ c.merge c = c) ∧
    (∀ a b : Config, (a.merge b).revision = b.revision.or a.revision ∧
      (a.merge b).unknownCompiler = b.unknownCompiler.or a.unknownCompiler ∧
      (∀ name, (a.merge b).options.find? name = (b.options.find? name).or (a.options.find? name)) ∧
      ∀ key, (a.merge b).settings.find? key = (b.settings.find? key).or (a.settings.find? key)) ∧
    (∀ files path c, load files path = .ok c ↔ stateAt files path = .valid c) ∧
    (∀ files globalPath projectPath, layered files globalPath projectPath =
      (empty.merge (stateAt files globalPath).contribution).merge
        (stateAt files projectPath).contribution) ∧
    ∀ files path other files' path', (∀ c, load files path ≠ .ok c) →
      stateAt files' path' = .absent → stateAt files' other = stateAt files other →
        layered files path other = layered files' path' other ∧
          layered files other path = layered files' other path' := by
  refine ⟨merge_assoc, fun c => ⟨empty_merge c, merge_empty c, merge_self c⟩, fun a b => ?_,
    fun files path c => load_eq_ok_iff, fun files globalPath projectPath => ?_, ?_⟩
  · exact ⟨rfl, rfl, a.options.find?_merge b.options, a.settings.find?_merge b.settings⟩
  · rw [layered_eq, empty_merge]
  · intro files path other files' path' hload habsent hother
    have hnone : (stateAt files path).contribution = (stateAt files' path').contribution := by
      rw [contribution_of_not_loaded hload, habsent]
      rfl
    rw [layered_eq, layered_eq, layered_eq, layered_eq, hother, hnone]
    exact ⟨rfl, rfl⟩

-- a global file that cannot be opened does not keep the project's file from being used
example :
    let files := (FileTree.empty.put ["global.toml"] .sealed).put ["project.toml"]
      (.file "[resolve]\nrevision = \"v1\"\n".toUTF8)
    (layered files "global.toml" "project.toml").revision = some .v1 := by
  decide +kernel

end Config

end RecipeResolver
