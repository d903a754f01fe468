import RecipeResolver.Config.Basic
import RecipeResolver.Proofs.Profile.Writes

/-!
# The profile of an overlay

A configuration keeps its profile as it is written. Blanks around a name are removed only when the
profile is read; until then two spellings of a key are different names, and an overlay may hold one
from either layer. The entries are read in the order of their names, so the spelling that comes last
counts, whichever layer it is from.

`Config.SpellsLater` says that the last spelling of a key is one of the lower layer. Such a key has
the value of the lower layer (`value?_of_spellsLater`), and every other key that of the upper one
(`value?_of_not_spellsLater`).
-/

namespace RecipeResolver.Config

open Settings (written?)

/-! ## Spellings -/

/-- The names under which a configuration sets a key, in ascending order. -/
def spellings (c : Config) (key : SettingKey) : List String :=
  c.settings.keys.filter fun name => Text.trim name = key.name

/-- A configuration spells a key later than another one if it has a name for it that comes after all
names that the other one has for it. -/
def SpellsLater (c other : Config) (key : SettingKey) : Prop :=
  ∃ name ∈ c.spellings key, ∀ name' ∈ other.spellings key, name' < name

instance (c other : Config) (key : SettingKey) : Decidable (c.SpellsLater other key) :=
  inferInstanceAs (Decidable (∃ name ∈ c.spellings key, _))

/-- Otherwise each of its names comes before some name of the other one, or is among them. -/
theorem not_spellsLater_iff {c other : Config} {key : SettingKey} :
    ¬ c.SpellsLater other key ↔
      ∀ name ∈ c.spellings key, ∃ name' ∈ other.spellings key, name ≤ name' := by
  unfold SpellsLater
  simp only [not_exists, not_and, Classical.not_forall, String.not_lt, exists_prop]

theorem mem_spellings {c : Config} {key : SettingKey} {name : String} :
    name ∈ c.spellings key ↔
      Text.trim name = key.name ∧ ∃ value, (name, value) ∈ c.settings.entries := by
  unfold spellings OrderedMap.keys
  rw [List.mem_filter, decide_eq_true_eq, and_comm, List.mem_map]
  refine and_congr_right fun _ => ?_
  constructor
  · rintro ⟨e, he, rfl⟩
    exact ⟨e.2, he⟩
  · rintro ⟨value, he⟩
    exact ⟨(name, value), he, rfl⟩

/-- An overlay has the spellings of both layers. -/
theorem mem_spellings_merge {c other : Config} {key : SettingKey} {name : String} :
    name ∈ (c.merge other).spellings key ↔
      name ∈ c.spellings key ∨ name ∈ other.spellings key := by
  rw [mem_spellings, mem_spellings, mem_spellings, ← and_or_left]
  refine and_congr_right fun _ => ?_
  constructor
  · rintro ⟨value, hmem⟩
    rcases OrderedMap.mem_entries_merge.1 hmem with hother | ⟨-, hc⟩
    · exact .inr ⟨value, hother⟩
    · exact .inl ⟨value, hc⟩
  · intro h
    cases hfind : other.settings.find? name with
    | some value =>
      exact ⟨value, OrderedMap.mem_entries_merge.2 (.inl (OrderedMap.mem_entries_iff.2 hfind))⟩
    | none =>
      rcases h with ⟨value, hc⟩ | ⟨value, hother⟩
      · exact ⟨value, OrderedMap.mem_entries_merge.2 (.inr ⟨hfind, hc⟩)⟩
      · rw [OrderedMap.mem_entries_iff, hfind] at hother
        cases hother

/-! ## The entry that counts -/

/-- An entry counts for a key if its name is the last spelling of the key. -/
structure Counts (c : Config) (key : SettingKey) (e : String × String) : Prop where
  mem : e ∈ c.settings.entries
  spelled : Text.trim e.1 = key.name
  last : ∀ name ∈ c.spellings key, name ≤ e.1

/-- The head of a list of entries comes before all others. -/
theorem lt_of_ascending {head : String × String} {rest : List (String × String)}
    (h : Ascending (head :: rest)) {e : String × String} (he : e ∈ rest) : head.1 < e.1 :=
  compareOfLessAndEq_eq_lt.1 ((List.pairwise_cons.1 h).1 e he)

/-- A key that is spelled at all has a last spelling. -/
theorem exists_last (spelled : String → Prop) {entries : List (String × String)}
    (h : Ascending entries) (hspelled : ∃ e ∈ entries, spelled e.1) :
    ∃ e ∈ entries, spelled e.1 ∧ ∀ e' ∈ entries, spelled e'.1 → e'.1 ≤ e.1 := by
  induction entries with
  | nil =>
    obtain ⟨e, he, -⟩ := hspelled
    cases he
  | cons head rest ih =>
    by_cases hrest : ∃ e ∈ rest, spelled e.1
    · obtain ⟨e, he, hs, hlast⟩ := ih (List.Pairwise.of_cons h) hrest
      refine ⟨e, List.mem_cons_of_mem head he, hs, fun e' he' hs' => ?_⟩
      rcases List.mem_cons.1 he' with rfl | he'
      · exact Std.le_of_lt (lt_of_ascending h he)
      · exact hlast e' he' hs'
    · obtain ⟨e, he, hs⟩ := hspelled
      rcases List.mem_cons.1 he with rfl | he
      · refine ⟨e, List.mem_cons_self, hs, fun e' he' hs' => ?_⟩
        rcases List.mem_cons.1 he' with rfl | he'
        · exact Std.le_refl _
        · exact absurd ⟨e', he', hs'⟩ hrest
      · exact absurd ⟨e, he, hs⟩ hrest

theorem exists_counts {c : Config} {key : SettingKey} {name : String}
    (h : name ∈ c.spellings key) : ∃ e, c.Counts key e := by
  obtain ⟨hname, value, hmem⟩ := mem_spellings.1 h
  obtain ⟨e, he, hspelled, hlast⟩ := exists_last (fun name => Text.trim name = key.name)
    c.settings.ascending ⟨(name, value), hmem, hname⟩
  refine ⟨e, he, hspelled, fun name' hname' => ?_⟩
  obtain ⟨hspelled', value', hmem'⟩ := mem_spellings.1 hname'
  exact hlast (name', value') hmem' hspelled'

/-- The last entry about a key is the one with the last spelling. -/
theorem lastValue?_eq_of_last {entries : List (String × String)} (h : Ascending entries)
    {key : SettingKey} {e : String × String} (he : e ∈ entries)
    (hspelled : Text.trim e.1 = key.name)
    (hlast : ∀ e' ∈ entries, Text.trim e'.1 = key.name → e'.1 ≤ e.1) :
    lastValue? (fun e => written? e.1 e.2) key entries = some (Text.trim e.2) := by
  induction entries with
  | nil => cases he
  | cons head rest ih =>
    rw [lastValue?_cons]
    rcases List.mem_cons.1 he with rfl | he
    · -- what comes after the last spelling is about other keys
      have hrest : lastValue? (fun e => written? e.1 e.2) key rest = none := by
        rw [lastValue?_eq_none_iff]
        intro e' he' v hv
        have hle := hlast e' (List.mem_cons_of_mem e he') (Settings.written?_eq_some_iff.1 hv).1
        exact String.not_lt.2 hle (lt_of_ascending h he')
      have hwrite : written? e.1 e.2 = some (key, Text.trim e.2) :=
        Settings.written?_eq_some_iff.2 ⟨hspelled, rfl⟩
      rw [hrest, hwrite, Option.none_or, Option.bind_some, if_pos rfl]
    · rw [ih (List.Pairwise.of_cons h) he fun e' he' => hlast e' (List.mem_cons_of_mem head he'),
        Option.some_or]

/-! ## Profiles -/

/-- A configuration has a profile if its names are names of keys. Each key has the value that was
written last. -/
theorem profile_eq_ok_iff {c : Config} {s : Settings} :
    c.profile = .ok s ↔ (∀ e ∈ c.settings.entries, ∃ w, written? e.1 e.2 = some w) ∧
      ∀ key, s.value? key = lastValue? (fun e => written? e.1 e.2) key c.settings.entries := by
  have hstep (s : Settings) (e : String × String) (s' : Settings) :
      applyEntry s e = .ok s' ↔ ∃ w, written? e.1 e.2 = some w ∧ s' = s.insert w.1 w.2 := by
    rw [← Settings.set_eq_ok_iff]
    unfold applyEntry
    cases s.set e.1 e.2 <;> simp
  unfold profile
  rw [Settings.foldlM_eq_ok_iff hstep]
  refine and_congr_right fun _ => forall_congr' fun key => ?_
  show s.value? key = (lastValue? _ key _).or none ↔ _
  rw [Option.or_none]

section Profile

variable {c : Config} {s : Settings} (hs : c.profile = .ok s) {key : SettingKey}

include hs

/-- The entry that counts for a key gives the value. -/
theorem Counts.value?_eq {e : String × String} (he : c.Counts key e) :
    s.value? key = some (Text.trim e.2) := by
  rw [(profile_eq_ok_iff.1 hs).2]
  refine lastValue?_eq_of_last c.settings.ascending he.mem he.spelled fun e' he' hspelled => ?_
  exact he.last e'.1 (mem_spellings.2 ⟨hspelled, e'.2, he'⟩)

/-- A key that is not spelled is not set. -/
theorem value?_eq_none_iff : s.value? key = none ↔ ∀ name, name ∉ c.spellings key := by
  constructor
  · intro hnone name hname
    obtain ⟨e, he⟩ := exists_counts hname
    rw [he.value?_eq hs] at hnone
    cases hnone
  · intro h
    rw [(profile_eq_ok_iff.1 hs).2, lastValue?_eq_none_iff]
    intro e he v hv
    exact h e.1 (mem_spellings.2 ⟨(Settings.written?_eq_some_iff.1 hv).1, e.2, he⟩)

theorem exists_spelling (hset : s.value? key ≠ none) : ∃ name, name ∈ c.spellings key := by
  rw [ne_eq, value?_eq_none_iff hs, Classical.not_forall] at hset
  obtain ⟨name, hname⟩ := hset
  exact ⟨name, Classical.not_not.1 hname⟩

end Profile

/-! ## Two layers -/

variable {g p : Config} {sg sp s : Settings} {key : SettingKey}

/-- Two layers that have a profile have one together. -/
theorem exists_profile_merge (hg : g.profile = .ok sg) (hp : p.profile = .ok sp) :
    ∃ s, (g.merge p).profile = .ok s := by
  let values (key : SettingKey) : Option String :=
    lastValue? (fun e => written? e.1 e.2) key (g.merge p).settings.entries
  refine ⟨⟨values⟩, profile_eq_ok_iff.2 ⟨fun e he => ?_, fun key => rfl⟩⟩
  rcases OrderedMap.mem_entries_merge.1 he with hother | ⟨-, hown⟩
  · exact (profile_eq_ok_iff.1 hp).1 e hother
  · exact (profile_eq_ok_iff.1 hg).1 e hown

/-- A key that the lower layer spells later keeps the value of the lower layer. -/
theorem value?_of_spellsLater (hg : g.profile = .ok sg) (hs : (g.merge p).profile = .ok s)
    (h : g.SpellsLater p key) : s.value? key = sg.value? key := by
  obtain ⟨name, hname, hlater⟩ := h
  obtain ⟨e, he⟩ := exists_counts hname
  have hafter : ∀ other ∈ p.spellings key, other < e.1 := fun other hother =>
    Std.lt_of_lt_of_le (hlater other hother) (he.last name hname)
  have hmerged : (g.merge p).Counts key e := by
    refine ⟨OrderedMap.mem_entries_merge.2 (.inr ⟨?_, he.mem⟩), he.spelled, ?_⟩
    · -- the upper layer has no entry of this name, or the name would come after itself
      rw [Option.eq_none_iff_forall_ne_some]
      intro value hvalue
      have hself := hafter e.1
        (mem_spellings.2 ⟨he.spelled, value, OrderedMap.mem_entries_iff.2 hvalue⟩)
      exact String.lt_irrefl e.1 hself
    · intro other hother
      rcases mem_spellings_merge.1 hother with hown | hother
      · exact he.last other hown
      · exact Std.le_of_lt (hafter other hother)
  rw [hmerged.value?_eq hs, he.value?_eq hg]

/-- Every other key has the value of the upper layer. -/
theorem value?_of_not_spellsLater (hp : p.profile = .ok sp) (hs : (g.merge p).profile = .ok s)
    (h : ¬ g.SpellsLater p key) : s.value? key = sp.value? key := by
  have hnotLater := not_spellsLater_iff.1 h
  by_cases hspelled : ∃ name, name ∈ p.spellings key
  · obtain ⟨name, hname⟩ := hspelled
    obtain ⟨e, he⟩ := exists_counts hname
    have hmerged : (g.merge p).Counts key e := by
      refine ⟨OrderedMap.mem_entries_merge.2 (.inl he.mem), he.spelled, fun other hother => ?_⟩
      rcases mem_spellings_merge.1 hother with hown | hother
      · obtain ⟨later, hlater, hle⟩ := hnotLater other hown
        exact Std.le_trans hle (he.last later hlater)
      · exact he.last other hother
    rw [hmerged.value?_eq hs, he.value?_eq hp]
  · have hnone : ∀ name, name ∉ p.spellings key := fun name hname => hspelled ⟨name, hname⟩
    rw [(value?_eq_none_iff hp).2 hnone, value?_eq_none_iff hs]
    intro name hname
    rcases mem_spellings_merge.1 hname with hown | hother
    · obtain ⟨other, hother, -⟩ := hnotLater name hown
      exact hnone other hother
    · exact hnone name hother

/-- A key that the lower layer sets and the upper one does not is spelled later by the lower one. -/
theorem spellsLater_of_unset (hg : g.profile = .ok sg) (hp : p.profile = .ok sp)
    (hset : sg.value? key ≠ none) (hunset : sp.value? key = none) : g.SpellsLater p key := by
  have hnone := (value?_eq_none_iff hp).1 hunset
  obtain ⟨name, hname⟩ := exists_spelling hg hset
  exact ⟨name, hname, fun other hother => absurd hother (hnone other)⟩

/-- Names without blanks around them are the names of the keys. -/
theorem not_spellsLater_of_trimmed (htrim : ∀ name ∈ g.settings.keys ++ p.settings.keys,
    Text.trim name = name) (hset : ∃ name, name ∈ p.spellings key) : ¬ g.SpellsLater p key := by
  have hname {c : Config} (hkeys : ∀ name ∈ c.settings.keys, Text.trim name = name) {name : String}
      (h : name ∈ c.spellings key) : name = key.name := by
    obtain ⟨hin, hspelled⟩ := List.mem_filter.1 h
    exact (hkeys name hin).symm.trans (of_decide_eq_true hspelled)
  obtain ⟨other, hother⟩ := hset
  rw [not_spellsLater_iff]
  intro name hg
  have hlower : name = key.name := hname (fun n hn => htrim n (List.mem_append_left _ hn)) hg
  have hupper : other = key.name := hname (fun n hn => htrim n (List.mem_append_right _ hn)) hother
  have hsame : name = other := hlower.trans hupper.symm
  exact ⟨other, hother, Std.le_of_eq hsame⟩

/-- At one key, the profile of an overlay is the overlay of the profiles unless the lower layer
spells the key later and gives it another value. -/
theorem value?_eq_overlay_iff (hg : g.profile = .ok sg) (hp : p.profile = .ok sp)
    (hs : (g.merge p).profile = .ok s) : s.value? key = (sg.merge sp).value? key ↔
      (g.SpellsLater p key → sp.value? key = none ∨ sp.value? key = sg.value? key) := by
  show s.value? key = (sp.value? key).or (sg.value? key) ↔ _
  by_cases h : g.SpellsLater p key
  · rw [value?_of_spellsLater hg hs h]
    cases hsp : sp.value? key with
    | none => simp
    | some value => simp [h, eq_comm]
  · rw [value?_of_not_spellsLater hp hs h]
    cases hsp : sp.value? key with
    | none =>
      -- what the upper layer leaves open is open in the lower one too
      have hsg : sg.value? key = none := by
        by_cases hset : sg.value? key = none
        · exact hset
        · exact absurd (spellsLater_of_unset hg hp hset hsp) h
      simp [hsg]
    | some value => simp [h]

/-- Two layers that have a profile have one together. In it a key that the lower layer spells later
has the value of the lower layer, and every other key that of the upper one. So the profile is the
overlay of the two profiles unless the lower layer spells a key later that the upper one sets, and
gives another value to it. Names without blanks around them rule this out. -/
theorem profile_merge (hg : g.profile = .ok sg) (hp : p.profile = .ok sp) :
    ∃ s, (g.merge p).profile = .ok s ∧
      (∀ key, s.value? key = if g.SpellsLater p key then sg.value? key else sp.value? key) ∧
      (s = sg.merge sp ↔ ∀ key, g.SpellsLater p key →
        sp.value? key = none ∨ sp.value? key = sg.value? key) ∧
      ((∀ name ∈ g.settings.keys ++ p.settings.keys, Text.trim name = name) →
        s = sg.merge sp) := by
  obtain ⟨s, hs⟩ := exists_profile_merge hg hp
  have hvalue (key : SettingKey) :
      s.value? key = if g.SpellsLater p key then sg.value? key else sp.value? key := by
    by_cases h : g.SpellsLater p key
    · rw [if_pos h, value?_of_spellsLater hg hs h]
    · rw [if_neg h, value?_of_not_spellsLater hp hs h]
  have hoverlay : s = sg.merge sp ↔ ∀ key, g.SpellsLater p key →
      sp.value? key = none ∨ sp.value? key = sg.value? key := by
    constructor
    · rintro rfl key
      exact (value?_eq_overlay_iff hg hp hs).1 rfl
    · intro h
      exact Settings.ext fun key => (value?_eq_overlay_iff hg hp hs).2 (h key)
  refine ⟨s, hs, hvalue, hoverlay, fun htrim => hoverlay.2 fun key hlater => ?_⟩
  by_cases hunset : sp.value? key = none
  · exact .inl hunset
  · exact absurd hlater (not_spellsLater_of_trimmed htrim (exists_spelling hp hunset))

/-- Both layers set the compiler and its version. The upper one writes a blank before `compiler`,
and only its version gets through. -/
theorem profile_merge_of_padded_name :
    let g : Config :=
      { settings := .ofList [("compiler", "clang"), ("compiler.version", "14")] }
    let p : Config :=
      { settings := .ofList [(" compiler", "gcc"), ("compiler.version", " 9")] }
    ∃ sg sp s, g.profile = .ok sg ∧ p.profile = .ok sp ∧ (g.merge p).profile = .ok s ∧
      s.value? .compiler = some "clang" ∧ s.value? .compilerVersion = some "9" := by
  intro g p
  have hg : g.profile =
      .ok ((Settings.empty.insert .compiler "clang").insert .compilerVersion "14") := rfl
  have hp : p.profile =
      .ok ((Settings.empty.insert .compiler "gcc").insert .compilerVersion "9") := rfl
  obtain ⟨s, hs, hvalue, -⟩ := profile_merge hg hp
  have hlater : g.SpellsLater p .compiler := by decide +kernel
  have hnotLater : ¬ g.SpellsLater p .compilerVersion := by decide +kernel
  refine ⟨_, _, s, hg, hp, hs, ?_, ?_⟩
  · rw [hvalue, if_pos hlater]
    rfl
  · rw [hvalue, if_neg hnotLater]
    rfl

/-- With a blank before a name in the upper layer the profile is not the overlay of the two: the
compiler is that of the lower layer. -/
theorem profile_merge_ne_overlay :
    let g : Config := { settings := .ofList [("compiler", "clang")] }
    let p : Config := { settings := .ofList [(" compiler", "gcc")] }
    ∃ sg sp s, g.profile = .ok sg ∧ p.profile = .ok sp ∧ (g.merge p).profile = .ok s ∧
      s.value? .compiler = some "clang" ∧ (sg.merge sp).value? .compiler = some "gcc" :=
  ⟨Settings.empty.insert .compiler "clang", Settings.empty.insert .compiler "gcc",
    (Settings.empty.insert .compiler "gcc").insert .compiler "clang", rfl, rfl, rfl, rfl, rfl⟩

end RecipeResolver.Config
