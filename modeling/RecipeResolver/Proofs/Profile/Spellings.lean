import RecipeResolver.Interchange.Profile
import RecipeResolver.Proofs.Report.Outcome

/-!
# Spellings of standards

A standard is spelled by its digits behind three kinds of marks, each of which may be repeated or
left out. The reader strips the marks one kind after the other and every time as often as it can
(`dropCopies_eq_iff`). It strips neither too many nor too few of them because no mark begins what
may follow the copies of another one: the marks are different texts of the same length, and the
digits are shorter (`not_prefix_copies`).
-/

namespace RecipeResolver

/-- A mark written a number of times. -/
def copies (n : Nat) (mark : List Char) : List Char :=
  (List.replicate n mark).flatten

theorem copies_succ (n : Nat) (mark : List Char) : copies (n + 1) mark = mark ++ copies n mark := by
  unfold copies
  rw [List.replicate_succ, List.flatten_cons]

theorem all_copies {p : Char → Bool} {mark : List Char} (h : mark.all p = true) (n : Nat) :
    (copies n mark).all p = true := by
  induction n with
  | zero => rfl
  | succ n ih => rw [copies_succ, List.all_append, h, ih, Bool.and_self]

/-- No mark begins a text that starts with another mark of its length. -/
theorem not_prefix_copies {mark other rest : List Char} (hlength : mark.length = other.length)
    (hne : mark ≠ other) (hrest : ¬ mark <+: rest) (n : Nat) :
    ¬ mark <+: copies n other ++ rest := by
  cases n with
  | zero => exact hrest
  | succ n =>
    intro h
    rw [copies_succ, List.append_assoc] at h
    have hother : other <+: other ++ (copies n other ++ rest) := List.prefix_append _ _
    have hbegins : mark <+: other := List.prefix_of_prefix_length_le h hother (Nat.le_of_eq hlength)
    exact hne (hbegins.eq_of_length hlength)

/-- A mark does not begin a shorter text. -/
theorem not_prefix_of_shorter {mark rest : List Char} (h : rest.length < mark.length) :
    ¬ mark <+: rest := fun hbegins =>
  absurd hbegins.length_le (Nat.not_le_of_lt h)

namespace Standard

/-- A text spells a standard if it is copies of `c++`, then copies of `gnu`, then copies of `cpp`,
then the digits. There may be no copies. -/
def IsSpelled (standard : Standard) (core : String) : Prop :=
  ∃ i j k, core.toList = copies i ['c', '+', '+'] ++ (copies j ['g', 'n', 'u'] ++
    (copies k ['c', 'p', 'p'] ++ standard.digits.toList))

/-! ## Stripping marks -/

/-- All copies of a mark are dropped: what is left does not begin with another one. -/
theorem dropCopies_eq_iff {m : Char} {mark cs rest : List Char} :
    dropCopies m mark cs = rest ↔
      (∃ n, cs = copies n (m :: mark) ++ rest) ∧ ¬ (m :: mark) <+: rest := by
  fun_induction dropCopies m mark cs with
  | case1 cs next hafter ih =>
    -- one copy is dropped here
    rw [ih, Text.after?_eq_some_iff.1 hafter]
    refine and_congr_left fun hrest => ?_
    constructor
    · rintro ⟨n, rfl⟩
      exact ⟨n + 1, by rw [copies_succ, List.append_assoc]⟩
    · rintro ⟨n, hn⟩
      cases n with
      | zero => exact absurd ⟨next, hn⟩ hrest
      | succ n =>
        rw [copies_succ, List.append_assoc] at hn
        exact ⟨n, List.append_cancel_left hn⟩
  | case2 cs hafter =>
    -- there is no copy to drop
    have hcs : ¬ (m :: mark) <+: cs := by
      rintro ⟨next, hnext⟩
      rw [Text.after?_eq_some_iff.2 hnext.symm] at hafter
      cases hafter
    constructor
    · rintro rfl
      exact ⟨⟨0, rfl⟩, hcs⟩
    · rintro ⟨⟨n, hn⟩, -⟩
      cases n with
      | zero => exact hn
      | succ n =>
        rw [copies_succ, List.append_assoc] at hn
        exact absurd ⟨_, hn.symm⟩ hcs

theorem length_digits (standard : Standard) : standard.digits.toList.length = 2 := by
  cases standard <;> rfl

theorem ofDigits?_eq_some_iff {digits : String} {standard : Standard} :
    ofDigits? digits = some standard ↔ standard.digits = digits := by
  constructor
  · intro h
    exact eq_of_beq (List.find?_some (p := fun s : Standard => s.digits == digits) h)
  · rintro rfl
    cases standard <;> decide

/-- The reader finds the standard that a text spells without the blanks around it. -/
theorem parse?_eq_some_iff {s : String} {standard : Standard} :
    parse? s = some standard ↔ standard.IsSpelled (Text.trim s) := by
  unfold parse? IsSpelled
  dsimp only
  rw [ofDigits?_eq_some_iff, ← String.toList_inj, String.toList_ofList, eq_comm,
    dropCopies_eq_iff]
  constructor
  · rintro ⟨⟨k, hk⟩, -⟩
    obtain ⟨⟨j, hj⟩, -⟩ := dropCopies_eq_iff.1 hk
    obtain ⟨⟨i, hi⟩, -⟩ := dropCopies_eq_iff.1 hj
    exact ⟨i, j, k, hi⟩
  · rintro ⟨i, j, k, hcore⟩
    have hdigits {mark : List Char} (hmark : mark.length = 3) :
        ¬ mark <+: standard.digits.toList :=
      not_prefix_of_shorter (by rw [length_digits, hmark]; decide)
    -- what follows the copies of a mark does not begin with this mark
    have hgnu : ¬ ['g', 'n', 'u'] <+: copies k ['c', 'p', 'p'] ++ standard.digits.toList :=
      not_prefix_copies (by rfl) (by decide) (hdigits rfl) k
    have hcpp : ¬ ['c', '+', '+'] <+: copies k ['c', 'p', 'p'] ++ standard.digits.toList :=
      not_prefix_copies (by rfl) (by decide) (hdigits rfl) k
    have hplus : ¬ ['c', '+', '+'] <+:
        copies j ['g', 'n', 'u'] ++ (copies k ['c', 'p', 'p'] ++ standard.digits.toList) :=
      not_prefix_copies (by rfl) (by decide) hcpp j
    rw [dropCopies_eq_iff.2 ⟨⟨i, hcore⟩, hplus⟩, dropCopies_eq_iff.2 ⟨⟨j, rfl⟩, hgnu⟩]
    exact ⟨⟨k, rfl⟩, hdigits rfl⟩

/-! ## What a text names -/

/-- Nothing in a spelling is blank. -/
theorem IsSpelled.trimmed {standard : Standard} {core : String} (h : standard.IsSpelled core) :
    Text.Trimmed core := by
  obtain ⟨i, j, k, hcore⟩ := h
  have hdigits : standard.digits.toList.all (fun c => !Text.isBlank c) = true := by
    cases standard <;> rfl
  have hall : core.toList.all (fun c => !Text.isBlank c) = true := by
    rw [hcore, List.all_append, List.all_append, List.all_append, Bool.and_eq_true,
      Bool.and_eq_true, Bool.and_eq_true]
    exact ⟨all_copies rfl i, all_copies rfl j, all_copies rfl k, hdigits⟩
  refine Text.trimmed_of_not_blank fun c hc => ?_
  simpa using List.all_eq_true.1 hall c hc

theorem isSpelled_trim_iff {s : String} {standard : Standard} :
    standard.IsSpelled (Text.trim s) ↔ ∃ core, Text.Padded s core ∧ standard.IsSpelled core := by
  constructor
  · intro h
    exact ⟨_, Text.padded_trim s, h⟩
  · rintro ⟨core, hpadded, hcore⟩
    rwa [Text.trim_eq_iff.2 ⟨hpadded, hcore.trimmed⟩]

theorem read_eq_ok_iff {s : String} {standard : Standard} :
    read s = .ok standard ↔ parse? s = some standard := by
  unfold read
  cases parse? s <;> simp

theorem read_eq_error_iff {s : String} {e : StandardError} :
    read s = .error e ↔ parse? s = none ∧ e = ⟨s⟩ := by
  unfold read
  cases parse? s <;> simp [eq_comm]

/-- Every spelling in data is a spelling in a profile: it has at most one mark. -/
theorem isSpelled_of_mem_spellings {name : String} {standard : Standard}
    (h : name ∈ standard.spellings) : standard.IsSpelled name := by
  unfold spellings at h
  rw [List.mem_cons, List.mem_cons, List.mem_singleton] at h
  rcases h with rfl | rfl | rfl
  · exact ⟨0, 0, 0, rfl⟩
  · exact ⟨1, 0, 0, String.toList_append⟩
  · exact ⟨0, 1, 0, String.toList_append⟩

theorem mem_spellings_of_ofJson? {j : Json} {standard : Standard}
    (h : ofJson? j = some standard) : ∃ name, j.choice? = some name ∧ name ∈ standard.spellings := by
  obtain ⟨name, hname, hfound⟩ := Option.bind_eq_some_iff.1 h
  have hcontains := List.find?_some (p := fun s : Standard => s.spellings.contains name) hfound
  exact ⟨name, hname, List.contains_iff_mem.1 hcontains⟩

/-- A text names a standard if it has blanks around copies of `c++`, of `gnu` and of `cpp` in this
order and the digits of the standard. Any other text is refused, and the error shows it as it was
given. A text that is taken for a standard in JSON names the same standard in a profile. -/
theorem read_names_spelled_standard (s : String) :
    (∀ standard, read s = .ok standard ↔
      ∃ core, Text.Padded s core ∧ standard.IsSpelled core) ∧
    (∀ e, read s = .error e ↔
      e = ⟨s⟩ ∧ ∀ (standard : Standard) core, Text.Padded s core → ¬ standard.IsSpelled core) ∧
    ∀ standard, ofJson? (.string s) = some standard → read s = .ok standard := by
  have hread (standard : Standard) : read s = .ok standard ↔
      ∃ core, Text.Padded s core ∧ standard.IsSpelled core := by
    rw [read_eq_ok_iff, parse?_eq_some_iff, isSpelled_trim_iff]
  refine ⟨hread, fun e => ?_, fun standard h => ?_⟩
  · rw [read_eq_error_iff, and_comm]
    refine and_congr_right fun _ => ?_
    rw [Option.eq_none_iff_forall_ne_some]
    refine forall_congr' fun standard => ?_
    rw [ne_eq, ← read_eq_ok_iff, hread standard, not_exists]
    exact forall_congr' fun core => not_and
  · obtain ⟨name, hname, hmem⟩ := mem_spellings_of_ofJson? h
    obtain rfl : s = name := Option.some.inj hname
    have hspelled := isSpelled_of_mem_spellings hmem
    -- there are no blanks around a spelling in data
    rw [read_eq_ok_iff, parse?_eq_some_iff, Text.trim_eq_self hspelled.trimmed]
    exact hspelled

-- kinds of marks in another order are no spelling
example : parse? " c++c++gnu17\n" = some .cpp17 ∧ parse? "gnuc++17" = none := by
  decide +kernel

end Standard

end RecipeResolver
