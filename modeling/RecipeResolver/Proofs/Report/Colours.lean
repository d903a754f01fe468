import RecipeResolver.Report.Diagnostic
import RecipeResolver.Text.Cut

/-!
# What colours change in a diagnostic

`withoutColours` leaves out of a text every sequence that begins with an escape character and `[`
and ends with the next `m`. A coloured diagnostic without its colours is the plain one.

The two renderings differ in a few pieces only, but a sequence that has begun in one piece could go
on in the next one. `ShownAs text plain` therefore speaks of a text with anything behind it. In this
form the pieces can be put together: a text without escape characters is shown as it is, and a word
between its colours is shown as the word.
-/

namespace RecipeResolver

/-! ## Texts without colours -/

/-- What stands behind a sequence at the start of a text: an escape character, `[`, and everything
up to the first `m`. -/
def behindSequence? (cs : List Char) : Option (List Char) :=
  (Text.after? ['\x1b', '['] cs).bind fun tail => (Text.cut 'm' tail).map Prod.snd

theorem behindSequence?_eq_some_iff {cs rest : List Char} : behindSequence? cs = some rest ↔
    ∃ parameters, cs = '\x1b' :: '[' :: (parameters ++ 'm' :: rest) ∧ 'm' ∉ parameters := by
  unfold behindSequence?
  simp only [Option.bind_eq_some_iff, Option.map_eq_some_iff, Text.after?_eq_some_iff, Prod.exists,
    Text.cut_eq_some_iff]
  constructor
  · rintro ⟨tail, rfl, parameters, rest, ⟨rfl, hparameters⟩, rfl⟩
    exact ⟨parameters, rfl, hparameters⟩
  · rintro ⟨parameters, rfl, hparameters⟩
    exact ⟨_, rfl, parameters, rest, ⟨rfl, hparameters⟩, rfl⟩

/-- The characters of a text without its sequences. A sequence that no `m` ends is none. -/
def withoutSequences : List Char → List Char
  | [] => []
  | c :: cs =>
    match _h : behindSequence? (c :: cs) with
    | some rest => withoutSequences rest
    | none => c :: withoutSequences cs
  termination_by cs => cs.length
  decreasing_by
    · obtain ⟨parameters, hcs, -⟩ := behindSequence?_eq_some_iff.1 _h
      rw [hcs]
      simp only [List.length_cons, List.length_append]
      omega
    · simp

/-- The text without its colours. -/
def withoutColours (s : String) : String :=
  String.ofList (withoutSequences s.toList)

theorem withoutSequences_sequence {parameters : List Char} (h : 'm' ∉ parameters)
    (rest : List Char) :
    withoutSequences ('\x1b' :: '[' :: (parameters ++ 'm' :: rest)) = withoutSequences rest := by
  have hbehind : behindSequence? ('\x1b' :: '[' :: (parameters ++ 'm' :: rest)) = some rest :=
    behindSequence?_eq_some_iff.2 ⟨parameters, rfl, h⟩
  rw [withoutSequences]
  split
  · rename_i rest' hrest'
    rw [hbehind] at hrest'
    rw [Option.some.inj hrest']
  · rename_i hnone
    rw [hbehind] at hnone
    cases hnone

/-- A character that begins no sequence stays. -/
theorem withoutSequences_cons {c : Char} (h : c ≠ '\x1b') (cs : List Char) :
    withoutSequences (c :: cs) = c :: withoutSequences cs := by
  rw [withoutSequences]
  split
  · rename_i rest hrest
    obtain ⟨parameters, hcs, -⟩ := behindSequence?_eq_some_iff.1 hrest
    exact absurd (List.cons.inj hcs).1 h
  · rfl

theorem withoutSequences_append {cs : List Char} (h : '\x1b' ∉ cs) (rest : List Char) :
    withoutSequences (cs ++ rest) = cs ++ withoutSequences rest := by
  induction cs with
  | nil => rfl
  | cons c cs ih =>
    rw [List.mem_cons, not_or] at h
    rw [List.cons_append, withoutSequences_cons (Ne.symm h.1), ih h.2, List.cons_append]

/-! ## Pieces and what they show -/

/-- A text without the escape character. -/
def EscapeFree (s : String) : Prop := '\x1b' ∉ s.toList

instance (s : String) : Decidable (EscapeFree s) := inferInstanceAs (Decidable (_ ∉ _))

@[simp] theorem escapeFree_append {s t : String} :
    EscapeFree (s ++ t) ↔ EscapeFree s ∧ EscapeFree t := by
  unfold EscapeFree
  rw [String.toList_append, List.mem_append, not_or]

theorem escapeFree_join {pieces : List String} (h : ∀ piece ∈ pieces, EscapeFree piece) :
    EscapeFree (String.join pieces) := by
  induction pieces with
  | nil => exact List.not_mem_nil
  | cons piece pieces ih =>
    obtain ⟨hpiece, hpieces⟩ := List.forall_mem_cons.1 h
    rw [String.join_cons, escapeFree_append]
    exact ⟨hpiece, ih hpieces⟩

theorem escapeFree_toString (n : Nat) : EscapeFree (toString n) := by
  show '\x1b' ∉ (String.ofList (Nat.toDigits 10 n)).toList
  rw [String.toList_ofList]
  intro h
  have hdigit := Nat.isDigit_of_mem_toDigits (by decide) (by decide) h
  exact absurd hdigit (by decide)

/-- Whatever follows, this text without its colours is that one. -/
def ShownAs (text plain : String) : Prop :=
  ∀ rest, withoutSequences (text.toList ++ rest) = plain.toList ++ withoutSequences rest

theorem EscapeFree.shownAs {s : String} (h : EscapeFree s) : ShownAs s s :=
  withoutSequences_append h

theorem ShownAs.append {s p t q : String} (h : ShownAs s p) (h' : ShownAs t q) :
    ShownAs (s ++ t) (p ++ q) := by
  intro rest
  rw [String.toList_append, List.append_assoc, h, h', String.toList_append, List.append_assoc]

theorem ShownAs.withoutColours_eq {text plain : String} (h : ShownAs text plain) :
    withoutColours text = plain := by
  have hshown := h []
  have hnil : withoutSequences [] = [] := by rw [withoutSequences]
  rw [List.append_nil, hnil, List.append_nil] at hshown
  unfold withoutColours
  rw [hshown, String.ofList_toList]

namespace Diagnostic

/-- A word between its colours. -/
theorem shownAs_paint {colour word : String} (hcolour : 'm' ∉ colour.toList)
    (hword : EscapeFree word) : ShownAs (paint true colour word) (paint false colour word) := by
  intro rest
  have htext : (paint true colour word).toList ++ rest =
      '\x1b' :: '[' :: (colour.toList ++ 'm' ::
        (word.toList ++ '\x1b' :: '[' :: (['0'] ++ 'm' :: rest))) := by
    simp [paint]
  -- the first sequence ends with its own `m`, before the word
  rw [htext, withoutSequences_sequence hcolour, withoutSequences_append hword,
    withoutSequences_sequence (by decide)]
  rfl

/-- That no text of a diagnostic has an escape character in it. -/
structure TextsEscapeFree (d : Diagnostic) : Prop where
  message : EscapeFree d.message
  code : ∀ code ∈ d.code, EscapeFree code
  context : ∀ line ∈ d.context, EscapeFree line
  suggestions : ∀ suggestion ∈ d.suggestions, EscapeFree suggestion

/-- What the code of a diagnostic adds to its first line. -/
def codeMark (d : Diagnostic) : String :=
  d.code.elim "" fun code => "[" ++ code ++ "]"

theorem headline_eq (d : Diagnostic) (coloured : Bool) : d.headline coloured =
    paint coloured d.severity.colour d.severity.word ++ d.codeMark ++ ": " ++ d.message ++ "\n" := by
  unfold headline codeMark
  cases d.code <;> rfl

theorem TextsEscapeFree.codeMark {d : Diagnostic} (h : d.TextsEscapeFree) :
    EscapeFree d.codeMark := by
  unfold Diagnostic.codeMark
  cases hcode : d.code with
  | none => decide
  | some code =>
    show EscapeFree ("[" ++ code ++ "]")
    rw [escapeFree_append, escapeFree_append]
    exact ⟨⟨by decide, h.code code hcode⟩, by decide⟩

theorem shownAs_headline {d : Diagnostic} (h : d.TextsEscapeFree) :
    ShownAs (d.headline true) (d.headline false) := by
  have hseverity : ShownAs (paint true d.severity.colour d.severity.word)
      (paint false d.severity.colour d.severity.word) := by
    refine shownAs_paint ?_ ?_
    · cases d.severity <;> decide
    · cases d.severity <;> decide
  have hcolon : EscapeFree ": " := by decide
  have hend : EscapeFree "\n" := by decide
  rw [headline_eq, headline_eq]
  exact (((hseverity.append h.codeMark.shownAs).append hcolon.shownAs).append
    h.message.shownAs).append hend.shownAs

/-- Numbering brings in no escape character. -/
theorem escapeFree_numbered {suggestions : List String}
    (h : ∀ suggestion ∈ suggestions, EscapeFree suggestion) (n : Nat) :
    EscapeFree (numbered n suggestions) := by
  induction suggestions generalizing n with
  | nil => exact List.not_mem_nil
  | cons suggestion rest ih =>
    obtain ⟨hfirst, hrest⟩ := List.forall_mem_cons.1 h
    unfold numbered
    simp only [escapeFree_append]
    exact ⟨⟨⟨⟨⟨by decide, escapeFree_toString n⟩, by decide⟩, hfirst⟩, by decide⟩, ih hrest (n + 1)⟩

theorem shownAs_help {d : Diagnostic} (h : d.TextsEscapeFree) :
    ShownAs (d.help true) (d.help false) := by
  unfold help
  by_cases hempty : d.suggestions.isEmpty = true
  · rw [if_pos hempty, if_pos hempty]
    exact EscapeFree.shownAs (by decide)
  · rw [if_neg hempty, if_neg hempty]
    have hblank : EscapeFree "\n" := by decide
    have hhead : EscapeFree ": consider:\n" := by decide
    have hword : ShownAs (paint true "1;32" "help") (paint false "1;32" "help") :=
      shownAs_paint (by decide) (by decide)
    exact ((hblank.shownAs.append hword).append hhead.shownAs).append
      (escapeFree_numbered h.suggestions 1).shownAs

theorem shownAs_render {d : Diagnostic} (h : d.TextsEscapeFree) :
    ShownAs (d.render true) (d.render false) := by
  have hcontext : EscapeFree (String.join (d.context.map fun line => "  -> " ++ line ++ "\n")) := by
    refine escapeFree_join (List.forall_mem_map.2 fun line hline => ?_)
    rw [escapeFree_append, escapeFree_append]
    exact ⟨⟨by decide, h.context line hline⟩, by decide⟩
  exact ((shownAs_headline h).append hcontext.shownAs).append (shownAs_help h)

/-! ## The plain text -/

/-- The lines of the section of suggestions: nothing if there are none, and otherwise a blank line,
a heading and the suggestions, counted from one. -/
def helpLines (d : Diagnostic) : List String :=
  if d.suggestions = [] then []
  else
    ["", "help: consider:"] ++
      d.suggestions.mapIdx fun i suggestion => "  " ++ toString (i + 1) ++ ". " ++ suggestion

/-- The lines of the plain text: the severity with the code in brackets and the message, an entry of
the context in each line, and the suggestions. -/
def plainLines (d : Diagnostic) : List String :=
  [d.severity.word ++ d.codeMark ++ ": " ++ d.message] ++
    (d.context.map fun line => "  -> " ++ line) ++ d.helpLines

/-- The suggestions are numbered one after the other. -/
theorem numbered_eq (n : Nat) (suggestions : List String) : numbered n suggestions =
    String.join ((suggestions.mapIdx fun i suggestion =>
      "  " ++ toString (i + n) ++ ". " ++ suggestion).map (· ++ "\n")) := by
  induction suggestions generalizing n with
  | nil => rfl
  | cons suggestion rest ih =>
    have hnext (i : Nat) : i + (n + 1) = i + 1 + n := by omega
    rw [numbered, ih, List.mapIdx_cons, List.map_cons, String.join_cons, Nat.zero_add]
    simp only [hnext]

theorem help_false_eq (d : Diagnostic) :
    d.help false = String.join (d.helpLines.map (· ++ "\n")) := by
  unfold help helpLines
  by_cases hempty : d.suggestions = []
  · rw [if_pos (List.isEmpty_iff.2 hempty), if_pos hempty]
    rfl
  · rw [if_neg (fun h => hempty (List.isEmpty_iff.1 h)), if_neg hempty, numbered_eq,
      List.map_append, String.join_append]
    rfl

theorem render_false_eq (d : Diagnostic) :
    d.render false = String.join (d.plainLines.map (· ++ "\n")) := by
  have hcontext : (d.context.map fun line => "  -> " ++ line ++ "\n") =
      (d.context.map fun line => "  -> " ++ line).map (· ++ "\n") := by
    rw [List.map_map]
    rfl
  unfold render plainLines
  rw [headline_eq, hcontext, help_false_eq, List.map_append, String.join_append, List.map_append,
    String.join_append, List.map_singleton, String.join_cons, String.join_nil, String.append_empty]
  rfl

end Diagnostic

end RecipeResolver
