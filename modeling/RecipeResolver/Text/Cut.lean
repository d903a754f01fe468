/-!
# Cutting a text at a character

`cut` divides a text at the first occurrence of a separator and `pieces` at every one. Assignments
such as `name=value`, package references such as `name/version` and version numbers are read with
these two.
-/

namespace RecipeResolver.Text

/-- The characters before and after the first `sep`, or nothing if there is none. -/
def cut (sep : Char) : List Char → Option (List Char × List Char)
  | [] => none
  | c :: rest =>
    if c = sep then some ([], rest)
    else (cut sep rest).map fun (before, after) => (c :: before, after)

/-- The pieces between the occurrences of `sep`; a text without any is one piece. -/
def pieces (sep : Char) : List Char → List (List Char)
  | [] => [[]]
  | c :: rest =>
    if c = sep then [] :: pieces sep rest
    else
      match pieces sep rest with
      | [] => [[c]]
      | piece :: others => (c :: piece) :: others

/-- What follows a mark at the start of a text, or nothing if the text starts otherwise. -/
def after? : List Char → List Char → Option (List Char)
  | [], cs => some cs
  | _ :: _, [] => none
  | m :: mark, c :: cs => if m = c then after? mark cs else none

/-- `cut` on strings. -/
def cut? (sep : Char) (s : String) : Option (String × String) :=
  (cut sep s.toList).map fun (before, after) => (String.ofList before, String.ofList after)

/-! ## Laws -/

/-- A cut loses nothing but the separator, and takes the first one. -/
theorem cut_eq_some_iff {sep : Char} {cs before after : List Char} :
    cut sep cs = some (before, after) ↔ cs = before ++ sep :: after ∧ sep ∉ before := by
  induction cs generalizing before with
  | nil => simp [cut]
  | cons c rest ih =>
    by_cases h : c = sep
    · subst h
      cases before with
      | nil => simp [cut]
      | cons b bs =>
        simp only [cut, if_true, Option.some.injEq, Prod.mk.injEq, List.cons_append,
          List.cons.injEq, List.mem_cons, not_or]
        constructor
        · intro h; cases h.1
        · rintro ⟨⟨rfl, _⟩, h, _⟩; exact absurd rfl h
    · cases before with
      | nil => simp [cut, h]
      | cons b bs =>
        simp only [cut, h, if_false, Option.map_eq_some_iff, Prod.mk.injEq, Prod.exists,
          List.cons.injEq, List.cons_append, List.mem_cons, not_or]
        constructor
        · rintro ⟨x, y, hxy, ⟨rfl, rfl⟩, rfl⟩
          have := ih.1 hxy
          exact ⟨⟨rfl, this.1⟩, fun e => h e.symm, this.2⟩
        · rintro ⟨⟨rfl, hr⟩, hb, hbs⟩
          exact ⟨bs, after, ih.2 ⟨hr, hbs⟩, ⟨rfl, rfl⟩, rfl⟩

/-- There is no cut exactly when the separator does not occur. -/
theorem cut_eq_none_iff {sep : Char} {cs : List Char} : cut sep cs = none ↔ sep ∉ cs := by
  induction cs with
  | nil => simp [cut]
  | cons c rest ih =>
    by_cases h : c = sep
    · simp [cut, h]
    · simp [cut, h, ih, Ne.symm h]

/-- `cut_eq_some_iff` on strings. -/
theorem cut?_eq_some_iff {sep : Char} {s before after : String} :
    cut? sep s = some (before, after) ↔
      s = before ++ String.singleton sep ++ after ∧ sep ∉ before.toList := by
  have hlist : s = before ++ String.singleton sep ++ after ↔
      s.toList = before.toList ++ sep :: after.toList := by
    rw [← String.toList_inj]
    simp
  unfold cut?
  rw [Option.map_eq_some_iff, hlist]
  constructor
  · rintro ⟨⟨b, a⟩, hcut, hparts⟩
    rw [Prod.mk.injEq] at hparts
    obtain ⟨rfl, rfl⟩ := hparts
    rw [String.toList_ofList, String.toList_ofList]
    exact cut_eq_some_iff.1 hcut
  · intro hcut
    refine ⟨(before.toList, after.toList), cut_eq_some_iff.2 hcut, ?_⟩
    dsimp only
    rw [String.ofList_toList, String.ofList_toList]

/-- The parts of an argument `name=value`. -/
theorem cut?_equals_eq_some_iff {s before after : String} :
    cut? '=' s = some (before, after) ↔ s = before ++ "=" ++ after ∧ '=' ∉ before.toList := by
  have hsign : String.singleton '=' = "=" := rfl
  rw [cut?_eq_some_iff, hsign]

theorem cut?_eq_none_iff {sep : Char} {s : String} : cut? sep s = none ↔ sep ∉ s.toList := by
  unfold cut?
  rw [Option.map_eq_none_iff, cut_eq_none_iff]

/-- A mark is found exactly at the start. -/
theorem after?_eq_some_iff {mark cs rest : List Char} :
    after? mark cs = some rest ↔ cs = mark ++ rest := by
  induction mark generalizing cs with
  | nil => simp [after?]
  | cons m mark ih =>
    cases cs with
    | nil => simp [after?]
    | cons c cs =>
      by_cases h : m = c
      · simp [after?, h, ih]
      · simp [after?, h, Ne.symm h]

/-- There is always at least one piece. -/
theorem pieces_ne_nil (sep : Char) (cs : List Char) : pieces sep cs ≠ [] := by
  cases cs with
  | nil => simp [pieces]
  | cons c rest =>
    simp only [pieces]
    split
    · simp
    · split <;> simp

theorem pieces_cons_of_ne {sep c : Char} (h : c ≠ sep) (cs : List Char) :
    ∃ piece others, pieces sep cs = piece :: others ∧
      pieces sep (c :: cs) = (c :: piece) :: others := by
  obtain ⟨piece, others, hcs⟩ := List.exists_cons_of_ne_nil (pieces_ne_nil sep cs)
  refine ⟨piece, others, hcs, ?_⟩
  rw [pieces, if_neg h, hcs]

/-- A text without the separator is one piece. -/
theorem pieces_of_not_mem {sep : Char} {cs : List Char} (h : sep ∉ cs) :
    pieces sep cs = [cs] := by
  induction cs with
  | nil => rfl
  | cons c rest ih =>
    rw [List.mem_cons, not_or] at h
    rw [pieces, if_neg (Ne.symm h.1), ih h.2]

/-- The first piece ends at the first separator. -/
theorem pieces_append_cons {sep : Char} {before : List Char} (h : sep ∉ before)
    (after : List Char) :
    pieces sep (before ++ sep :: after) = before :: pieces sep after := by
  induction before with
  | nil => rw [List.nil_append, pieces, if_pos rfl]
  | cons c rest ih =>
    rw [List.mem_cons, not_or] at h
    rw [List.cons_append, pieces, if_neg (Ne.symm h.1), ih h.2]

/-- The pieces with the separator between them are the text. -/
theorem intercalate_pieces (sep : Char) (cs : List Char) :
    [sep].intercalate (pieces sep cs) = cs := by
  induction cs with
  | nil => rfl
  | cons c rest ih =>
    obtain ⟨piece, others, hpieces⟩ := List.exists_cons_of_ne_nil (pieces_ne_nil sep rest)
    rw [hpieces] at ih
    by_cases hc : c = sep
    · rw [pieces, if_pos hc, hpieces, List.intercalate_cons_cons, ih, hc]
      rfl
    · rw [pieces, if_neg hc, hpieces]
      cases others with
      | nil =>
        rw [List.intercalate_singleton] at ih ⊢
        rw [ih]
      | cons other others =>
        rw [List.intercalate_cons_cons] at ih ⊢
        rw [List.cons_append, List.cons_append, ih]

/-- A text is known by its pieces. -/
theorem pieces_injective (sep : Char) : Function.Injective (pieces sep) := fun a b h => by
  rw [← intercalate_pieces sep a, h, intercalate_pieces]

/-- Every character but the separator is in one of the pieces. -/
theorem exists_piece_of_mem {sep c : Char} {cs : List Char} (hc : c ∈ cs) (hsep : c ≠ sep) :
    ∃ piece ∈ pieces sep cs, c ∈ piece := by
  induction cs with
  | nil => cases hc
  | cons d rest ih =>
    by_cases hd : d = sep
    · have hrest : c ∈ rest := (List.mem_cons.1 hc).resolve_left (by rw [hd]; exact hsep)
      obtain ⟨piece, hpiece, hmem⟩ := ih hrest
      rw [pieces, if_pos hd]
      exact ⟨piece, List.mem_cons_of_mem _ hpiece, hmem⟩
    · obtain ⟨first, others, hpieces, hcons⟩ := pieces_cons_of_ne hd rest
      rw [hcons]
      rcases List.mem_cons.1 hc with rfl | hrest
      · exact ⟨c :: first, List.mem_cons_self, List.mem_cons_self⟩
      · obtain ⟨piece, hpiece, hmem⟩ := ih hrest
        rw [hpieces] at hpiece
        rcases List.mem_cons.1 hpiece with rfl | hother
        · exact ⟨d :: piece, List.mem_cons_self, List.mem_cons_of_mem d hmem⟩
        · exact ⟨piece, List.mem_cons_of_mem _ hother, hmem⟩

/-- The last piece is empty only behind a separator. -/
theorem suffix_of_getLast?_pieces {sep : Char} {cs : List Char}
    (h : (pieces sep cs).getLast? = some []) : cs = [] ∨ [sep] <:+ cs := by
  induction cs with
  | nil => exact .inl rfl
  | cons c rest ih =>
    right
    by_cases hc : c = sep
    · subst hc
      rw [pieces, if_pos rfl, List.getLast?_cons_of_ne_nil (pieces_ne_nil c rest)] at h
      rcases ih h with rfl | hrest
      · exact List.suffix_rfl
      · exact hrest.trans (List.suffix_cons c rest)
    · obtain ⟨piece, others, hpieces, hcons⟩ := pieces_cons_of_ne hc rest
      rw [hcons] at h
      rw [hpieces] at ih
      cases others with
      | nil => cases h
      | cons other others =>
        -- the first piece has grown, and the last one is another piece
        rw [List.getLast?_cons_cons] at h ih
        rcases ih h with rfl | hrest
        · cases hpieces
        · exact hrest.trans (List.suffix_cons c rest)

end RecipeResolver.Text
