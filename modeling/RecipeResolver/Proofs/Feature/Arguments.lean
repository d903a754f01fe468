import RecipeResolver.Feature.Flag

/-!
# Option arguments

`Assigns s name value` says what an argument gives without saying how it is read: some text, the
first equals sign and more text, and the name and the value are these two texts without the blanks
around them. There is such a pair if there is an equals sign.

`ReadsAs` has a rule for each way in which an argument can be written. The value is looked at only
where there is a name, so an argument without a name is malformed whatever its value is.
`parseAssignment_eq_iff` says that every argument is read by one of the rules, and that no two of
them disagree.
-/

namespace RecipeResolver

/-! ## The spellings of a truth value -/

/-- The texts that stand for a truth value. -/
def truthSpellings : Bool → List String
  | true => ["True", "true", "ON", "on", "1", "yes"]
  | false => ["False", "false", "OFF", "off", "0", "no"]

/-- A text stands for the value under whose spellings it is listed. -/
theorem truthValue?_eq_some_iff {t : String} {b : Bool} :
    truthValue? t = some b ↔ t ∈ truthSpellings b := by
  have hdisjoint : ∀ t ∈ truthSpellings true, t ∉ truthSpellings false := by decide
  show (if t ∈ truthSpellings true then some true
    else if t ∈ truthSpellings false then some false else none) = some b ↔ _
  by_cases htrue : t ∈ truthSpellings true
  · rw [if_pos htrue]
    have hfalse := hdisjoint t htrue
    cases b <;> simp [htrue, hfalse]
  · rw [if_neg htrue]
    by_cases hfalse : t ∈ truthSpellings false
    · rw [if_pos hfalse]
      cases b <;> simp [htrue, hfalse]
    · rw [if_neg hfalse]
      cases b <;> simp [htrue, hfalse]

theorem truthValue?_eq_none_iff {t : String} :
    truthValue? t = none ↔ ∀ b, t ∉ truthSpellings b := by
  rw [Option.eq_none_iff_forall_ne_some]
  refine forall_congr' fun b => ?_
  rw [ne_eq, truthValue?_eq_some_iff]

/-! ## The parts of an argument -/

/-- What an argument gives: the texts before and behind its first equals sign, each without the
blanks around it, are this name and this value. -/
def Assigns (s name value : String) : Prop :=
  ∃ before after, s = before ++ "=" ++ after ∧ '=' ∉ before.toList ∧
    (Text.Padded before name ∧ Text.Trimmed name) ∧ Text.Padded after value ∧ Text.Trimmed value

theorem assigns_iff {s name value : String} : Assigns s name value ↔
    ∃ before after, Text.cut? '=' s = some (before, after) ∧
      Text.trim before = name ∧ Text.trim after = value := by
  simp only [Assigns, Text.cut?_equals_eq_some_iff, Text.trim_eq_iff, and_assoc]

/-- An argument that is written in its two parts. -/
theorem assigns_append_iff {before after name value : String} (h : '=' ∉ before.toList) :
    Assigns (before ++ "=" ++ after) name value ↔
      Text.trim before = name ∧ Text.trim after = value := by
  have hcut : Text.cut? '=' (before ++ "=" ++ after) = some (before, after) :=
    Text.cut?_equals_eq_some_iff.2 ⟨rfl, h⟩
  rw [assigns_iff, hcut]
  constructor
  · rintro ⟨b, a, hparts, hname, hvalue⟩
    obtain ⟨rfl, rfl⟩ := Prod.mk.inj (Option.some.inj hparts)
    exact ⟨hname, hvalue⟩
  · rintro ⟨hname, hvalue⟩
    exact ⟨before, after, rfl, hname, hvalue⟩

/-- An argument has a name and a value if it has an equals sign. -/
theorem exists_assigns {s : String} (h : '=' ∈ s.toList) : ∃ name value, Assigns s name value := by
  cases hcut : Text.cut? '=' s with
  | none => exact absurd h (Text.cut?_eq_none_iff.1 hcut)
  | some parts => exact ⟨_, _, assigns_iff.2 ⟨parts.1, parts.2, hcut, rfl, rfl⟩⟩

/-- The name is empty if nothing but blanks stands before the equals sign. -/
theorem exists_assigns_empty_iff {s : String} : (∃ value, Assigns s "" value) ↔
    ∃ before after, s = before ++ "=" ++ after ∧ Text.AllBlank before := by
  constructor
  · rintro ⟨value, h⟩
    obtain ⟨before, after, hcut, hname, -⟩ := assigns_iff.1 h
    exact ⟨before, after, (Text.cut?_equals_eq_some_iff.1 hcut).1, Text.trim_eq_empty_iff.1 hname⟩
  · rintro ⟨before, after, rfl, hblank⟩
    have hsign : '=' ∉ before.toList := fun h => absurd (hblank _ h) (by decide)
    exact ⟨_, (assigns_append_iff hsign).2 ⟨Text.trim_eq_empty_iff.2 hblank, rfl⟩⟩

/-! ## What is made of an argument -/

/-- Without an equals sign there is nothing to read. -/
theorem parseAssignment_of_not_mem {s : String} (h : '=' ∉ s.toList) :
    parseAssignment s = .error (.malformed s) := by
  unfold parseAssignment
  rw [Text.cut?_eq_none_iff.2 h]

/-- The name is looked at first, and the value only if there is a name. -/
theorem parseAssignment_of_assigns {s name value : String} (h : Assigns s name value) :
    parseAssignment s =
      if name = "" then .error (.malformed s)
      else
        match truthValue? value with
        | some b => .ok (name, b)
        | none => .error (.invalidValue name value) := by
  obtain ⟨before, after, hcut, rfl, rfl⟩ := assigns_iff.1 h
  unfold parseAssignment parseTruth
  rw [hcut]
  dsimp only
  cases truthValue? (Text.trim after) <;> rfl

/-- What an argument is read as, one rule for each way in which it can be written. -/
inductive ReadsAs (s : String) : Except FlagError (String × Bool) → Prop
  | option {name value : String} {b : Bool} (parts : Assigns s name value) (named : name ≠ "")
      (spelled : value ∈ truthSpellings b) : ReadsAs s (.ok (name, b))
  | unassigned (missing : '=' ∉ s.toList) : ReadsAs s (.error (.malformed s))
  | nameless {value : String} (parts : Assigns s "" value) : ReadsAs s (.error (.malformed s))
  | invalid {name value : String} (parts : Assigns s name value) (named : name ≠ "")
      (unspelled : ∀ b, value ∉ truthSpellings b) : ReadsAs s (.error (.invalidValue name value))

/-- Every argument is read by one of the rules. -/
theorem readsAs_parseAssignment (s : String) : ReadsAs s (parseAssignment s) := by
  by_cases hsign : '=' ∈ s.toList
  · obtain ⟨name, value, hparts⟩ := exists_assigns hsign
    rw [parseAssignment_of_assigns hparts]
    by_cases hname : name = ""
    · rw [if_pos hname]
      subst hname
      exact .nameless hparts
    · rw [if_neg hname]
      cases hvalue : truthValue? value with
      | some b => exact .option hparts hname (truthValue?_eq_some_iff.1 hvalue)
      | none => exact .invalid hparts hname (truthValue?_eq_none_iff.1 hvalue)
  · rw [parseAssignment_of_not_mem hsign]
    exact .unassigned hsign

/-- No two rules read an argument in different ways. -/
theorem parseAssignment_eq_iff {s : String} {r : Except FlagError (String × Bool)} :
    parseAssignment s = r ↔ ReadsAs s r := by
  constructor
  · rintro rfl
    exact readsAs_parseAssignment s
  · intro h
    cases h with
    | option hparts hname hvalue =>
      rw [parseAssignment_of_assigns hparts, if_neg hname, truthValue?_eq_some_iff.2 hvalue]
    | unassigned hsign => exact parseAssignment_of_not_mem hsign
    | nameless hparts => rw [parseAssignment_of_assigns hparts, if_pos rfl]
    | invalid hparts hname hvalue =>
      rw [parseAssignment_of_assigns hparts, if_neg hname, truthValue?_eq_none_iff.2 hvalue]

theorem parseAssignment_eq_ok_iff {s name : String} {b : Bool} :
    parseAssignment s = .ok (name, b) ↔
      ∃ value, Assigns s name value ∧ name ≠ "" ∧ value ∈ truthSpellings b := by
  rw [parseAssignment_eq_iff]
  constructor
  · intro h
    cases h with
    | option hparts hname hvalue => exact ⟨_, hparts, hname, hvalue⟩
  · rintro ⟨value, hparts, hname, hvalue⟩
    exact .option hparts hname hvalue

theorem parseAssignment_eq_malformed_iff {s input : String} :
    parseAssignment s = .error (.malformed input) ↔
      input = s ∧ ('=' ∉ s.toList ∨ ∃ value, Assigns s "" value) := by
  rw [parseAssignment_eq_iff]
  constructor
  · intro h
    cases h with
    | unassigned hsign => exact ⟨rfl, .inl hsign⟩
    | nameless hparts => exact ⟨rfl, .inr ⟨_, hparts⟩⟩
  · rintro ⟨rfl, hsign | ⟨value, hparts⟩⟩
    · exact .unassigned hsign
    · exact .nameless hparts

/-- Blanks around the name and around the value make no difference to what an argument gives. -/
theorem parseAssignment_of_padded {before after before' after' : String}
    (hsign : '=' ∉ before.toList) (hbefore : Text.Padded before' before)
    (hafter : Text.Padded after' after) (r : String × Bool) :
    parseAssignment (before' ++ "=" ++ after') = .ok r ↔
      parseAssignment (before ++ "=" ++ after) = .ok r := by
  have hsign' : '=' ∉ before'.toList := by
    obtain ⟨front, back, hfront, hback, rfl⟩ := hbefore
    rw [String.toList_append, String.toList_append, List.mem_append, List.mem_append]
    -- an equals sign is not blank
    rintro ((h | h) | h)
    · exact absurd (hfront _ h) (by decide)
    · exact hsign h
    · exact absurd (hback _ h) (by decide)
  obtain ⟨name, b⟩ := r
  simp only [parseAssignment_eq_ok_iff, assigns_append_iff hsign, assigns_append_iff hsign',
    Text.trim_of_padded hbefore, Text.trim_of_padded hafter]

/-- An argument is read as a name with a truth value if it has an equals sign, the text before the
first one without the blanks around it is this name and not empty, and the text behind it without
the blanks around it is a spelling of this value. It is malformed, and shown as it was given, if it
has no equals sign or only blanks before the first one, whatever the value is. In every other case
the value is refused, and name and value are shown without the blanks around them. More blanks
around the name and around the value make no difference to an argument that is read. -/
theorem parseAssignment_reads_grammar (s : String) :
    (∀ name b, parseAssignment s = .ok (name, b) ↔
      ∃ value, Assigns s name value ∧ name ≠ "" ∧ value ∈ truthSpellings b) ∧
    (∀ input, parseAssignment s = .error (.malformed input) ↔
      input = s ∧ ('=' ∉ s.toList ∨
        ∃ before after, s = before ++ "=" ++ after ∧ Text.AllBlank before)) ∧
    ((∀ r, parseAssignment s ≠ .ok r) → (∀ input, parseAssignment s ≠ .error (.malformed input)) →
      ∃ name value, Assigns s name value ∧
        parseAssignment s = .error (.invalidValue name value)) ∧
    ∀ before after before' after' r, s = before ++ "=" ++ after → '=' ∉ before.toList →
      Text.Padded before' before → Text.Padded after' after → parseAssignment s = .ok r →
        parseAssignment (before' ++ "=" ++ after') = .ok r := by
  refine ⟨fun name b => parseAssignment_eq_ok_iff, fun input => ?_, fun hok hmalformed => ?_, ?_⟩
  · rw [parseAssignment_eq_malformed_iff, exists_assigns_empty_iff]
  · generalize hr : parseAssignment s = r at hok hmalformed ⊢
    cases parseAssignment_eq_iff.1 hr with
    | option => exact absurd rfl (hok _)
    | unassigned => exact absurd rfl (hmalformed s)
    | nameless => exact absurd rfl (hmalformed s)
    | invalid hparts => exact ⟨_, _, hparts, rfl⟩
  · rintro before after before' after' r rfl hsign hbefore hafter hread
    exact (parseAssignment_of_padded hsign hbefore hafter r).2 hread

/-- Blanks outside ASCII are blanks as well. -/
theorem parseAssignment_reads_grammar_between_blanks :
    parseAssignment ("\u00a0with_aws\t" ++ "=" ++ "\u3000on\n") = .ok ("with_aws", true) := by
  obtain ⟨-, -, -, hblanks⟩ := parseAssignment_reads_grammar "with_aws=on"
  have hname : Text.Padded "\u00a0with_aws\t" "with_aws" :=
    ⟨"\u00a0", "\t", by decide, by decide, rfl⟩
  have hvalue : Text.Padded "\u3000on\n" "on" := ⟨"\u3000", "\n", by decide, by decide, rfl⟩
  exact hblanks "with_aws" "on" _ _ _ rfl (by decide) hname hvalue (by rfl)

end RecipeResolver
