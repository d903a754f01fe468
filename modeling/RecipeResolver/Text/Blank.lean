/-!
# Blank characters

The Unicode property `White_Space` and the removal of blanks at both ends of a text. Names, values
and version texts are trimmed by this rule before they are compared, so a no-break space or an
ideographic space around a value never makes a difference.
-/

namespace RecipeResolver.Text

/-- The 25 code points of the Unicode property `White_Space`. -/
def isBlank (c : Char) : Bool :=
  let n := c.toNat
  (0x09 ≤ n && n ≤ 0x0D) || n == 0x20 || n == 0x85 || n == 0xA0 || n == 0x1680 ||
    (0x2000 ≤ n && n ≤ 0x200A) || n == 0x2028 || n == 0x2029 || n == 0x202F || n == 0x205F ||
    n == 0x3000

/-- The characters without the blanks in front. -/
def trimLeft (cs : List Char) : List Char :=
  cs.dropWhile isBlank

/-- The characters without the blanks at the end. -/
def trimRight (cs : List Char) : List Char :=
  (cs.reverse.dropWhile isBlank).reverse

/-- The text without the blanks at its ends. -/
def trim (s : String) : String :=
  String.ofList (trimRight (trimLeft s.toList))

/-! ## Laws of the two ends -/

/-- The characters of ASCII above the space are not blank. -/
theorem isBlank_of_graphic {c : Char} (h : 0x20 < c.toNat) (h' : c.toNat < 0x80) :
    isBlank c = false := by
  simp only [isBlank, Bool.or_eq_false_iff, Bool.and_eq_false_iff, decide_eq_false_iff_not,
    beq_eq_false_iff_ne]
  omega

/-- A text without blanks in front keeps its first character, so it is left as it is. -/
theorem trimLeft_eq_self {cs : List Char} (h : ∀ c, cs.head? = some c → isBlank c = false) :
    trimLeft cs = cs := by
  cases cs with
  | nil => rfl
  | cons c rest => simp [trimLeft, h c rfl]

/-- Trimming the left end leaves no blank in front. -/
theorem head?_trimLeft {cs : List Char} {c : Char} (h : (trimLeft cs).head? = some c) :
    isBlank c = false := by
  induction cs with
  | nil => simp [trimLeft] at h
  | cons d rest ih =>
    by_cases hd : isBlank d
    · exact ih (by simpa [trimLeft, hd] using h)
    · simp [trimLeft, hd] at h
      simpa [h] using hd

/-- There is no blank at either end. -/
def Trimmed (s : String) : Prop :=
  (∀ c, s.toList.head? = some c → isBlank c = false) ∧
    ∀ c, s.toList.getLast? = some c → isBlank c = false

/-- Trimming leaves no blank at either end. -/
theorem trimmed_trim (s : String) : Trimmed (trim s) := by
  unfold Trimmed trim
  rw [String.toList_ofList]
  constructor
  · intro c hc
    -- trimming the right end keeps the first character, if it keeps any
    have hprefix : trimRight (trimLeft s.toList) <+: trimLeft s.toList := by
      rw [← List.reverse_suffix, trimRight, List.reverse_reverse]
      exact List.dropWhile_suffix isBlank
    obtain ⟨rest, hrest⟩ := hprefix
    have hhead : (trimLeft s.toList).head? = some c := by
      rw [← hrest, List.head?_append, hc, Option.some_or]
    exact head?_trimLeft hhead
  · intro c hc
    rw [trimRight, List.getLast?_reverse] at hc
    exact head?_trimLeft hc

/-! ## Texts with blanks around them -/

/-- A text of blanks only. -/
def AllBlank (s : String) : Prop :=
  ∀ c ∈ s.toList, isBlank c = true

instance (s : String) : Decidable (AllBlank s) :=
  List.decidableBAll (fun c => isBlank c = true) s.toList

/-- A text is another one with blanks in front of it and behind it. -/
def Padded (s core : String) : Prop :=
  ∃ front back, AllBlank front ∧ AllBlank back ∧ s = front ++ core ++ back

theorem trimLeft_append {front : List Char} (h : ∀ c ∈ front, isBlank c = true)
    (cs : List Char) : trimLeft (front ++ cs) = trimLeft cs :=
  List.dropWhile_append_of_pos h

theorem trimRight_append (cs : List Char) {back : List Char} (h : ∀ c ∈ back, isBlank c = true) :
    trimRight (cs ++ back) = trimRight cs := by
  unfold trimRight
  rw [List.reverse_append, List.dropWhile_append_of_pos fun c hc => h c (List.mem_reverse.1 hc)]

theorem isBlank_of_mem_takeWhile {cs : List Char} : ∀ c ∈ cs.takeWhile isBlank, isBlank c = true :=
  List.all_eq_true.1 List.all_takeWhile

theorem trimLeft_eq_nil_iff {cs : List Char} : trimLeft cs = [] ↔ ∀ c ∈ cs, isBlank c = true := by
  constructor
  · intro h
    have hcs := List.takeWhile_append_dropWhile (p := isBlank) (l := cs)
    rw [← hcs, show cs.dropWhile isBlank = [] from h, List.append_nil]
    exact isBlank_of_mem_takeWhile
  · intro h
    have hnil := trimLeft_append h []
    rwa [List.append_nil] at hnil

/-- Blanks around a text make no difference to what is left of it. -/
theorem trim_of_padded {s core : String} (h : Padded s core) : trim s = trim core := by
  obtain ⟨front, back, hfront, hback, rfl⟩ := h
  unfold trim
  rw [String.toList_append, String.toList_append, List.append_assoc, trimLeft_append hfront]
  refine congrArg String.ofList ?_
  cases hcore : trimLeft core.toList with
  -- there is nothing but blanks
  | nil =>
    rw [trimLeft_append (trimLeft_eq_nil_iff.1 hcore), trimLeft_eq_nil_iff.2 hback]
  | cons c rest =>
    have hmeets : trimLeft (core.toList ++ back.toList) = c :: rest ++ back.toList := by
      unfold trimLeft at hcore ⊢
      rw [List.dropWhile_append, hcore]
      rfl
    rw [hmeets, trimRight_append _ hback]

/-- A text without blanks at its ends is left as it is. -/
theorem trim_eq_self {s : String} (h : Trimmed s) : trim s = s := by
  have hright : trimRight s.toList = s.toList := by
    have hreverse : trimLeft s.toList.reverse = s.toList.reverse :=
      trimLeft_eq_self fun c hc => h.2 c (by rwa [List.head?_reverse] at hc)
    unfold trimRight
    unfold trimLeft at hreverse
    rw [hreverse, List.reverse_reverse]
  unfold trim
  rw [trimLeft_eq_self h.1, hright, String.ofList_toList]

/-- What trimming takes away is blank. -/
theorem padded_trim (s : String) : Padded s (trim s) := by
  have hleft : s.toList = s.toList.takeWhile isBlank ++ trimLeft s.toList :=
    List.takeWhile_append_dropWhile.symm
  have hright : trimLeft s.toList = trimRight (trimLeft s.toList) ++
      ((trimLeft s.toList).reverse.takeWhile isBlank).reverse := by
    unfold trimRight
    rw [← List.reverse_append, List.takeWhile_append_dropWhile, List.reverse_reverse]
  refine ⟨.ofList (s.toList.takeWhile isBlank),
    .ofList ((trimLeft s.toList).reverse.takeWhile isBlank).reverse, ?_, ?_, ?_⟩
  · unfold AllBlank
    rw [String.toList_ofList]
    exact isBlank_of_mem_takeWhile
  · unfold AllBlank
    rw [String.toList_ofList]
    exact fun c hc => isBlank_of_mem_takeWhile c (List.mem_reverse.1 hc)
  · unfold trim
    rw [← String.ofList_append, ← String.ofList_append, List.append_assoc, ← hright, ← hleft,
      String.ofList_toList]

/-- Trimming finds the one text without blanks at its ends that a text is with blanks around it. -/
theorem trim_eq_iff {s core : String} : trim s = core ↔ Padded s core ∧ Trimmed core := by
  constructor
  · rintro rfl
    exact ⟨padded_trim s, trimmed_trim s⟩
  · rintro ⟨hpadded, htrimmed⟩
    rw [trim_of_padded hpadded, trim_eq_self htrimmed]

theorem trimmed_of_trim_eq {s : String} (h : trim s = s) : Trimmed s :=
  (trim_eq_iff.1 h).2

theorem trim_eq_empty_iff {s : String} : trim s = "" ↔ AllBlank s := by
  constructor
  · intro h
    obtain ⟨front, back, hfront, hback, hs⟩ := h ▸ padded_trim s
    intro c hc
    rw [hs, String.append_empty, String.toList_append, List.mem_append] at hc
    exact hc.elim (hfront c) (hback c)
  · intro h
    unfold trim
    rw [trimLeft_eq_nil_iff.2 h]
    rfl

/-- A text in which no character is blank. -/
theorem trimmed_of_not_blank {s : String} (h : ∀ c ∈ s.toList, isBlank c = false) : Trimmed s :=
  ⟨fun c hc => h c (List.mem_of_head? hc), fun c hc => h c (List.mem_of_getLast? hc)⟩

end RecipeResolver.Text
