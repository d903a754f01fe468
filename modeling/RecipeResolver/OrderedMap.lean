/-!
# Ordered maps

A finite map whose entries stand in the order of their keys, each key once. As the order is part of
the type, two maps with the same values for the same keys are equal, and what is written from a map
does not depend on how it was built.
-/

namespace RecipeResolver

/-- Entries in strictly ascending order of their keys. -/
def Ascending {κ ν : Type} [Ord κ] (entries : List (κ × ν)) : Prop :=
  entries.Pairwise fun a b => compare a.1 b.1 = .lt

/-- A finite map from keys to values. -/
structure OrderedMap (κ ν : Type) [Ord κ] where
  entries : List (κ × ν)
  ascending : Ascending entries

namespace OrderedMap

variable {κ ν : Type} [Ord κ]

instance [DecidableEq κ] [DecidableEq ν] : DecidableEq (OrderedMap κ ν) := fun a b =>
  decidable_of_iff (a.entries = b.entries) (by cases a; cases b; simp)

/-- The map without entries. -/
def empty : OrderedMap κ ν := ⟨[], .nil⟩

instance : Inhabited (OrderedMap κ ν) := ⟨empty⟩

/-- The keys in ascending order. -/
def keys (m : OrderedMap κ ν) : List κ := m.entries.map Prod.fst

/-- The values in the order of their keys. -/
def values (m : OrderedMap κ ν) : List ν := m.entries.map Prod.snd

/-- The first value for a key in a list of entries. -/
def lookup (key : κ) : List (κ × ν) → Option ν
  | [] => none
  | (k, v) :: rest => if compare key k = .eq then some v else lookup key rest

/-- The value of a key. -/
def find? (m : OrderedMap κ ν) (key : κ) : Option ν :=
  lookup key m.entries

/-- Puts an entry at its place; an entry of the same key is replaced. -/
def insertEntry (key : κ) (value : ν) : List (κ × ν) → List (κ × ν)
  | [] => [(key, value)]
  | (k, v) :: rest =>
    match compare key k with
    | .lt => (key, value) :: (k, v) :: rest
    | .eq => (key, value) :: rest
    | .gt => (k, v) :: insertEntry key value rest

/-- The keys after an insertion are the old ones and the new one. -/
theorem mem_insertEntry {key : κ} {value : ν} {entries : List (κ × ν)} {e : κ × ν}
    (h : e ∈ insertEntry key value entries) : e = (key, value) ∨ e ∈ entries := by
  induction entries with
  | nil => simpa [insertEntry] using h
  | cons head rest ih =>
    obtain ⟨k, v⟩ := head
    simp only [insertEntry] at h
    split at h
    · simpa using h
    · rcases List.mem_cons.1 h with rfl | h
      · exact .inl rfl
      · exact .inr (List.mem_cons_of_mem _ h)
    · rcases List.mem_cons.1 h with rfl | h
      · exact .inr (by simp)
      · exact (ih h).imp id (List.mem_cons_of_mem _)

/-- An insertion keeps the order. -/
theorem ascending_insertEntry [Std.TransOrd κ] [Std.LawfulEqOrd κ] {key : κ} {value : ν}
    {entries : List (κ × ν)} (h : Ascending entries) :
    Ascending (insertEntry key value entries) := by
  induction entries with
  | nil => simp [insertEntry, Ascending]
  | cons head rest ih =>
    obtain ⟨k, v⟩ := head
    have hr : Ascending rest := List.Pairwise.of_cons h
    have hk : ∀ e ∈ rest, compare k e.1 = .lt := (List.pairwise_cons.1 h).1
    simp only [insertEntry]
    split
    · rename_i hc
      refine List.pairwise_cons.2 ⟨fun e he => ?_, h⟩
      rcases List.mem_cons.1 he with rfl | he
      · exact hc
      · exact Std.TransCmp.lt_trans hc (hk e he)
    · rename_i hc
      have heq := Std.LawfulEqOrd.eq_of_compare hc
      subst heq
      exact List.pairwise_cons.2 ⟨fun e he => hk e he, hr⟩
    · rename_i hc
      refine List.pairwise_cons.2 ⟨fun e he => ?_, ih hr⟩
      rcases mem_insertEntry he with rfl | he
      · exact Std.OrientedCmp.lt_of_gt hc
      · exact hk e he

variable [Std.TransOrd κ] [Std.LawfulEqOrd κ]

/-- The map with one key set. -/
def insert (m : OrderedMap κ ν) (key : κ) (value : ν) : OrderedMap κ ν :=
  ⟨insertEntry key value m.entries, ascending_insertEntry m.ascending⟩

/-- The map with all these entries set, in order, so that the last one of a key counts. -/
def insertAll (m : OrderedMap κ ν) (entries : List (κ × ν)) : OrderedMap κ ν :=
  entries.foldl (fun m e => m.insert e.1 e.2) m

/-- The map of these entries; the last one of a key counts. -/
def ofList (entries : List (κ × ν)) : OrderedMap κ ν :=
  empty.insertAll entries

/-- Overlays another map; where both have a key, the other one wins. -/
def merge (m other : OrderedMap κ ν) : OrderedMap κ ν :=
  m.insertAll other.entries

/-! ## What is found -/

omit [Std.TransOrd κ] in
/-- After an insertion its key has the new value and every other key the old one. -/
theorem lookup_insertEntry (key k : κ) (value : ν) (entries : List (κ × ν)) :
    lookup k (insertEntry key value entries) =
      if compare k key = .eq then some value else lookup k entries := by
  induction entries with
  | nil => rfl
  | cons head rest ih =>
    obtain ⟨k', v⟩ := head
    unfold insertEntry
    cases hc : compare key k' with
    | lt => rfl
    | eq =>
      have heq := Std.LawfulEqOrd.eq_of_compare hc
      subst heq
      dsimp only [lookup]
      by_cases hk : compare k key = .eq
      · rw [if_pos hk, if_pos hk]
      · rw [if_neg hk, if_neg hk, if_neg hk]
    | gt =>
      dsimp only [lookup]
      rw [ih]
      by_cases hk : compare k key = .eq
      · have heq := Std.LawfulEqOrd.eq_of_compare hk
        subst heq
        have hne : compare k k' ≠ .eq := by rw [hc]; decide
        rw [if_neg hne, if_pos hk, if_pos hk]
      · rw [if_neg hk, if_neg hk]

theorem find?_insert (m : OrderedMap κ ν) (key k : κ) (value : ν) :
    (m.insert key value).find? k = if compare k key = .eq then some value else m.find? k :=
  lookup_insertEntry key k value m.entries

omit [Std.TransOrd κ] [Std.LawfulEqOrd κ] in
/-- A key that comes before all entries is not found. -/
theorem lookup_eq_none_of_lt {key : κ} {entries : List (κ × ν)}
    (h : ∀ e ∈ entries, compare key e.1 = .lt) : lookup key entries = none := by
  induction entries with
  | nil => rfl
  | cons head rest ih =>
    have hne : compare key head.1 ≠ .eq := by rw [h head List.mem_cons_self]; decide
    rw [lookup, if_neg hne]
    exact ih fun e he => h e (List.mem_cons_of_mem head he)

/-- Of distinct keys each one that is inserted is found at its new value. -/
theorem find?_insertAll {entries : List (κ × ν)} (h : Ascending entries) (m : OrderedMap κ ν)
    (k : κ) : (m.insertAll entries).find? k = (lookup k entries).or (m.find? k) := by
  induction entries generalizing m with
  | nil => rfl
  | cons head rest ih =>
    obtain ⟨key, value⟩ := head
    show ((m.insert key value).insertAll rest).find? k = _
    rw [ih (List.Pairwise.of_cons h), find?_insert, lookup]
    by_cases hk : compare k key = .eq
    · have heq := Std.LawfulEqOrd.eq_of_compare hk
      subst heq
      rw [lookup_eq_none_of_lt (List.pairwise_cons.1 h).1, if_pos hk, if_pos hk]
      rfl
    · rw [if_neg hk, if_neg hk]

/-- In an overlay a key has the value of the other map if it is there, and else its own. -/
theorem find?_merge (m other : OrderedMap κ ν) (k : κ) :
    (m.merge other).find? k = (other.find? k).or (m.find? k) :=
  find?_insertAll other.ascending m k

omit [Std.TransOrd κ] in
theorem mem_of_lookup {key : κ} {value : ν} {entries : List (κ × ν)}
    (h : lookup key entries = some value) : (key, value) ∈ entries := by
  induction entries with
  | nil => cases h
  | cons head rest ih =>
    obtain ⟨k, v⟩ := head
    rw [lookup] at h
    by_cases hk : compare key k = .eq
    · rw [if_pos hk] at h
      have heq := Std.LawfulEqOrd.eq_of_compare hk
      cases h
      subst heq
      exact List.mem_cons_self
    · rw [if_neg hk] at h
      exact List.mem_cons_of_mem _ (ih h)

theorem lookup_of_mem {key : κ} {value : ν} {entries : List (κ × ν)} (h : Ascending entries)
    (hmem : (key, value) ∈ entries) : lookup key entries = some value := by
  induction entries with
  | nil => cases hmem
  | cons head rest ih =>
    rcases List.mem_cons.1 hmem with rfl | hmem
    · rw [lookup, if_pos Std.ReflCmp.compare_self]
    · -- the head comes before the entry, so it is one of another key
      have hlt := (List.pairwise_cons.1 h).1 _ hmem
      have hne : compare key head.1 ≠ .eq := by rw [Std.OrientedCmp.gt_of_lt hlt]; decide
      rw [lookup, if_neg hne]
      exact ih (List.Pairwise.of_cons h) hmem

/-- The entries of a map are what is found in it. -/
theorem mem_entries_iff {m : OrderedMap κ ν} {key : κ} {value : ν} :
    (key, value) ∈ m.entries ↔ m.find? key = some value :=
  ⟨lookup_of_mem m.ascending, mem_of_lookup⟩

/-- The entries of an overlay: those of the other map, and those whose key the other map does not
have. -/
theorem mem_entries_merge {m other : OrderedMap κ ν} {key : κ} {value : ν} :
    (key, value) ∈ (m.merge other).entries ↔
      (key, value) ∈ other.entries ∨ other.find? key = none ∧ (key, value) ∈ m.entries := by
  rw [mem_entries_iff, mem_entries_iff, mem_entries_iff, find?_merge, Option.or_eq_some_iff]

/-! ## Entries in order -/

omit [Std.LawfulEqOrd κ] in
/-- An entry whose key is after all others is put at the end. -/
theorem insertEntry_of_last {key : κ} {value : ν} {entries : List (κ × ν)}
    (h : ∀ e ∈ entries, compare e.1 key = .lt) :
    insertEntry key value entries = entries ++ [(key, value)] := by
  induction entries with
  | nil => rfl
  | cons head rest ih =>
    obtain ⟨k, v⟩ := head
    have hgt : compare key k = .gt := Std.OrientedCmp.gt_of_lt (h (k, v) List.mem_cons_self)
    rw [insertEntry, hgt]
    dsimp only
    rw [ih fun e he => h e (List.mem_cons_of_mem _ he), List.cons_append]

/-- Entries in order whose keys are after those of a map are put behind its entries. -/
theorem entries_insertAll {m : OrderedMap κ ν} {entries : List (κ × ν)}
    (h : Ascending (m.entries ++ entries)) : (m.insertAll entries).entries = m.entries ++ entries := by
  induction entries generalizing m with
  | nil => rw [List.append_nil]; rfl
  | cons head rest ih =>
    obtain ⟨key, value⟩ := head
    have hlast : ∀ e ∈ m.entries, compare e.1 key = .lt := fun e he =>
      (List.pairwise_append.1 h).2.2 e he (key, value) List.mem_cons_self
    have hinsert : (m.insert key value).entries = m.entries ++ [(key, value)] :=
      insertEntry_of_last hlast
    have hrest := ih (m := m.insert key value) (by
      rw [hinsert, List.append_assoc]
      exact h)
    rw [hinsert, List.append_assoc] at hrest
    exact hrest

omit [Std.TransOrd κ] [Std.LawfulEqOrd κ] in
theorem eq_of_entries {a b : OrderedMap κ ν} (h : a.entries = b.entries) : a = b := by
  cases a
  cases b
  cases h
  rfl

/-- A map is made of entries in order. -/
theorem entries_ofList {entries : List (κ × ν)} (h : Ascending entries) :
    (ofList entries).entries = entries :=
  entries_insertAll h

/-- A map is what its entries make. -/
theorem ofList_entries (m : OrderedMap κ ν) : ofList m.entries = m :=
  eq_of_entries (entries_ofList m.ascending)

end OrderedMap

end RecipeResolver
