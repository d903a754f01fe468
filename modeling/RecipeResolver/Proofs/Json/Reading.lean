import Mathlib.Data.List.DropRight
import Mathlib.Data.List.Forall2
import RecipeResolver.Json.Parser
import RecipeResolver.Json.Printer

/-!
# Reading what was written

`Reads text j` says that a text is read as the value `j` wherever it stands, with whatever behind it
and with no more fuel than the text is long. Texts with this property are put together as the
printers do it: quoted strings, items between commas in brackets, members between commas in braces,
and blanks in front of any of them. So a printer reads back if each of its lines is built in one of
these ways, and no proof about a printer has to open the reader.
-/

namespace RecipeResolver.Json

/-! ## Blanks -/

/-- Nothing but blanks. -/
def Blank (gap : List Char) : Prop := ∀ c ∈ gap, isSpace c = true

theorem Blank.nil : Blank [] := by
  intro c hc
  cases hc

theorem skipSpace_cons {c : Char} (h : isSpace c = false) (cs : List Char) :
    skipSpace (c :: cs) = c :: cs := by
  unfold skipSpace
  rw [List.dropWhile_cons_of_neg (by rw [h]; exact Bool.false_ne_true)]

theorem skipSpace_append {gap : List Char} (h : Blank gap) (cs : List Char) :
    skipSpace (gap ++ cs) = skipSpace cs := by
  unfold skipSpace
  rw [List.dropWhile_append_of_pos h]

@[simp] theorem skipSpace_skipSpace (cs : List Char) : skipSpace (skipSpace cs) = skipSpace cs := by
  unfold skipSpace
  rw [List.dropWhile_idempotent]

/-! ## Strings -/

/-- What a string begins with when this character stands first in it. -/
def withChar (c : Char) (found : List Piece × List Char) : List Piece × List Char :=
  (.char c :: found.1, found.2)

/-- A short escape stands for its character. -/
theorem readPieces_escape {e c : Char} (h : escaped? e = some c) (cs : List Char) :
    readPieces ('\\' :: e :: cs) = (readPieces cs).map (withChar c) := by
  have hu : e ≠ 'u' := by
    rintro rfl
    cases h
  rw [readPieces, h]
  · cases readPieces cs <;> rfl
  · rintro a b c d rest he
    exact absurd he hu

/-- The digits of a control character spell its code. -/
theorem code?_hexPair {c : Char} (h : c.toNat < 0x20) :
    ∃ high low, Text.hexPair c.toNat = [high, low] ∧ code? '0' '0' high low = some c.toNat := by
  have hzero : Text.hexValue? '0' = some 0 := by decide
  have hhigh : Text.hexValue? (Nat.digitChar (c.toNat / 16)) = some (c.toNat / 16) :=
    Text.hexValue?_digitChar (by omega)
  have hlow : Text.hexValue? (Nat.digitChar (c.toNat % 16)) = some (c.toNat % 16) :=
    Text.hexValue?_digitChar (by omega)
  refine ⟨_, _, rfl, ?_⟩
  unfold code?
  rw [hzero, hhigh, hlow]
  show some _ = some _
  rw [Option.some.injEq]
  omega

/-- A long escape of a control character stands for it. -/
theorem readPieces_code {c : Char} (h : c.toNat < 0x20) (cs : List Char) :
    readPieces ('\\' :: 'u' :: '0' :: '0' :: (Text.hexPair c.toNat ++ cs)) =
      (readPieces cs).map (withChar c) := by
  obtain ⟨high, low, hpair, hcode⟩ := code?_hexPair h
  have hpiece : Piece.ofCode c.toNat = .char c := by
    unfold Piece.ofCode
    rw [if_neg (by omega), Char.ofNat_toNat]
  rw [hpair]
  show readPieces ('\\' :: 'u' :: '0' :: '0' :: high :: low :: cs) = _
  rw [readPieces, hcode]
  cases readPieces cs with
  | none => rfl
  | some found =>
    dsimp only
    rw [hpiece]
    rfl

/-- A character without an escape stands for itself. -/
theorem readPieces_plain {c : Char} (hquote : c ≠ '"') (hback : c ≠ '\\') (h : ¬c.toNat < 0x20)
    (cs : List Char) : readPieces (c :: cs) = (readPieces cs).map (withChar c) := by
  rw [readPieces, if_neg (by simp only [hback, h, or_self, not_false_eq_true])]
  · cases readPieces cs <;> rfl
  · exact hquote
  · rintro a b c d rest he
    exact absurd he hback
  · rintro a rest he
    exact absurd he hback

/-- A character is read back from its escape. -/
theorem readPieces_escapeChar (c : Char) (cs : List Char) :
    readPieces (escapeChar c ++ cs) = (readPieces cs).map (withChar c) := by
  unfold escapeChar
  by_cases hquote : c = '"'
  · rw [if_pos hquote, hquote]
    exact readPieces_escape rfl cs
  rw [if_neg hquote]
  by_cases hback : c = '\\'
  · rw [if_pos hback, hback]
    exact readPieces_escape rfl cs
  rw [if_neg hback]
  -- the five control characters that have a letter of their own
  split_ifs with h1 h2 h3 h4 h5 h
  · rw [h1]
    exact readPieces_escape rfl cs
  · rw [h2]
    exact readPieces_escape rfl cs
  · rw [h3]
    exact readPieces_escape rfl cs
  · rw [h4]
    exact readPieces_escape rfl cs
  · rw [h5]
    exact readPieces_escape rfl cs
  · exact readPieces_code h cs
  · exact readPieces_plain hquote hback h cs

theorem readPieces_flatMap_escapeChar (text rest : List Char) :
    readPieces (text.flatMap escapeChar ++ '"' :: rest) = some (text.map .char, rest) := by
  induction text with
  | nil => rw [List.flatMap_nil, List.nil_append, readPieces, List.map_nil]
  | cons c text ih =>
    rw [List.flatMap_cons, List.append_assoc, readPieces_escapeChar, ih]
    rfl

theorem joinPieces_map_char (text : List Char) : joinPieces (text.map .char) = some text := by
  induction text with
  | nil => rfl
  | cons c text ih =>
    rw [List.map_cons, joinPieces, ih]
    rfl

/-- A quoted text behind its opening quote. -/
def quoteTail (s : String) : List Char := s.toList.flatMap escapeChar ++ ['"']

theorem quote_eq (s : String) : quote s = '"' :: quoteTail s := rfl

theorem readText_quoteTail (s : String) (rest : List Char) :
    readText (quoteTail s ++ rest) = some (some s, rest) := by
  unfold readText quoteTail
  rw [List.append_assoc, List.singleton_append, readPieces_flatMap_escapeChar, Option.map_some]
  dsimp only
  rw [joinPieces_map_char, Option.map_some, String.ofList_toList]

/-! ## Values -/

/-- Wherever the text stands it is read as this value, with no more fuel than it is long. -/
def Reads (text : List Char) (j : Json) : Prop :=
  ∀ fuel rest, text.length ≤ fuel → readValue fuel (text ++ rest) = some (j, rest)

/-- Blanks in front of a value are passed over. -/
theorem readValue_skipSpace (fuel : Nat) (cs : List Char) :
    readValue fuel (skipSpace cs) = readValue fuel cs := by
  cases fuel with
  | zero => rfl
  | succ fuel => rw [readValue, readValue, skipSpace_skipSpace]

theorem readItems_skipSpace (fuel : Nat) (cs : List Char) :
    readItems fuel (skipSpace cs) = readItems fuel cs := by
  cases fuel with
  | zero => rfl
  | succ fuel => rw [readItems, readItems, readValue_skipSpace]

theorem readMembers_skipSpace (fuel : Nat) (cs : List Char) :
    readMembers fuel (skipSpace cs) = readMembers fuel cs := by
  cases fuel with
  | zero => rfl
  | succ fuel => rw [readMembers, readMembers, skipSpace_skipSpace]

theorem Reads.blank_append {gap text : List Char} {j : Json} (hgap : Blank gap)
    (h : Reads text j) : Reads (gap ++ text) j := by
  intro fuel rest hfuel
  rw [List.length_append] at hfuel
  rw [List.append_assoc, ← readValue_skipSpace, skipSpace_append hgap, readValue_skipSpace]
  exact h fuel rest (by omega)

/-- A text that has characters is read with some fuel left, so the reader may be opened once. -/
theorem reads_of_succ {text : List Char} {j : Json} (hne : text ≠ [])
    (h : ∀ fuel rest, text.length ≤ fuel + 1 → readValue (fuel + 1) (text ++ rest) = some (j, rest)) :
    Reads text j := by
  intro fuel rest hfuel
  cases fuel with
  | zero => exact absurd (List.length_eq_zero_iff.1 (Nat.le_zero.1 hfuel)) hne
  | succ fuel => exact h fuel rest hfuel

theorem reads_null : Reads ['n', 'u', 'l', 'l'] .null := by
  refine reads_of_succ (by simp) fun fuel rest _ => ?_
  rfl

theorem reads_true : Reads ['t', 'r', 'u', 'e'] (.bool true) := by
  refine reads_of_succ (by simp) fun fuel rest _ => ?_
  rfl

theorem reads_false : Reads ['f', 'a', 'l', 's', 'e'] (.bool false) := by
  refine reads_of_succ (by simp) fun fuel rest _ => ?_
  rfl

theorem reads_quote (s : String) : Reads (quote s) (.string s) := by
  refine reads_of_succ (by rw [quote_eq]; simp) fun fuel rest _ => ?_
  have hopen : readValue (fuel + 1) ('"' :: (quoteTail s ++ rest)) =
      (readText (quoteTail s ++ rest)).map fun found =>
        ((found.1.map Json.string).getD .textless, found.2) := rfl
  rw [quote_eq, List.cons_append, hopen, readText_quoteTail]
  rfl

/-! ## Arrays -/

/-- No value begins with a closing bracket. -/
theorem readValue_closing (fuel : Nat) (cs : List Char) : readValue fuel (']' :: cs) = none := by
  cases fuel <;> rfl

/-- A list of items is read as an array, whose bracket has been read. -/
theorem readValue_array {fuel : Nat} {cs rest : List Char} {items : List Json}
    (h : readItems fuel cs = some (items, rest)) :
    readValue (fuel + 1) ('[' :: cs) = some (.array items, rest) := by
  rw [← readItems_skipSpace] at h
  simp only [readValue, skipSpace_cons (c := '[') (by decide)]
  split
  · rename_i heq
    -- items do not begin with a closing bracket
    cases fuel with
    | zero => cases h
    | succ fuel =>
      rw [heq, readItems, readValue_closing] at h
      cases h
  · rw [h, Option.map_some]

theorem reads_empty_array : Reads ['[', ']'] (.array []) := by
  refine reads_of_succ (by simp) fun fuel rest _ => ?_
  rfl

/-- The last item is the one before the bracket. -/
theorem Reads.readItems_last {text : List Char} {j : Json} (h : Reads text j) {gap : List Char}
    (hgap : Blank gap) {fuel : Nat} (hfuel : text.length ≤ fuel) (rest : List Char) :
    readItems (fuel + 1) (text ++ (gap ++ ']' :: rest)) = some ([j], rest) := by
  rw [readItems, h fuel _ hfuel]
  dsimp only
  rw [skipSpace_append hgap, skipSpace_cons (by decide)]
  rfl

/-- Behind a comma there are more items. -/
theorem Reads.readItems_more {text : List Char} {j : Json} (h : Reads text j) {fuel : Nat}
    (hfuel : text.length ≤ fuel) (cs : List Char) : readItems (fuel + 1) (text ++ ',' :: cs) =
      (readItems fuel cs).map fun found => (j :: found.1, found.2) := by
  rw [readItems, h fuel _ hfuel]
  dsimp only
  rw [skipSpace_cons (by decide)]
  rfl

/-- Values are read one after the other, with a comma between two of them and a bracket behind the
last one. -/
theorem readItems_intercalate {texts : List (List Char)} {items : List Json}
    (h : List.Forall₂ Reads texts items) (hne : items ≠ []) {gap : List Char} (hgap : Blank gap)
    (fuel : Nat) (rest : List Char) (hfuel : ([','].intercalate texts).length < fuel) :
    readItems fuel ([','].intercalate texts ++ (gap ++ ']' :: rest)) = some (items, rest) := by
  induction h generalizing fuel with
  | nil => exact absurd rfl hne
  | @cons text item texts items hread htail ih =>
    obtain ⟨fuel, rfl⟩ : ∃ n, fuel = n + 1 := ⟨fuel - 1, by omega⟩
    cases htail with
    | nil =>
      rw [List.intercalate_singleton] at hfuel ⊢
      exact hread.readItems_last hgap (by omega) rest
    | @cons text' item' texts items hread' htail =>
      rw [List.intercalate_cons_cons] at hfuel ⊢
      simp only [List.length_append, List.length_singleton] at hfuel
      have hrest := ih (List.cons_ne_nil item' items) fuel (by omega)
      rw [List.append_assoc, List.append_assoc, List.singleton_append,
        hread.readItems_more (by omega), hrest, Option.map_some]

/-- Values in brackets, with commas between them and blanks before the closing bracket. -/
theorem reads_array {texts : List (List Char)} {items : List Json}
    (h : List.Forall₂ Reads texts items) (hne : items ≠ []) {gap : List Char} (hgap : Blank gap) :
    Reads ('[' :: ([','].intercalate texts ++ gap ++ [']'])) (.array items) := by
  refine reads_of_succ (List.cons_ne_nil _ _) fun fuel rest hfuel => ?_
  simp only [List.length_cons, List.length_append, List.length_nil] at hfuel
  have hitems := readItems_intercalate h hne hgap fuel rest (by omega)
  have hflat : '[' :: ([','].intercalate texts ++ gap ++ [']']) ++ rest =
      '[' :: ([','].intercalate texts ++ (gap ++ ']' :: rest)) := by simp
  rw [hflat]
  exact readValue_array hitems

/-! ## Objects -/

/-- A text of a name and a value with a colon between them. -/
inductive ReadsMember : List Char → String × Json → Prop where
  | mk {gap text : List Char} {name : String} {j : Json} (hgap : Blank gap) (h : Reads text j) :
    ReadsMember (gap ++ (quote name ++ ':' :: text)) (name, j)

/-- The members of an object as they are read. -/
def named (members : List (String × Json)) : List (Option String × Json) :=
  members.map fun m => (some m.1, m.2)

theorem ofMembers_named (members : List (String × Json)) :
    ofMembers (named members) = .object members := by
  have hnames : (named members).mapM
      (fun (m : Option String × Json) => m.1.map fun name => (name, m.2)) = some members := by
    induction members with
    | nil => rfl
    | cons m rest ih =>
      rw [named, List.map_cons, List.mapM_cons]
      show ((named rest).mapM (fun (m : Option String × Json) =>
        m.1.map fun name => (name, m.2)) >>= fun found => some (m :: found)) = _
      rw [ih]
      rfl
  unfold ofMembers
  rw [hnames]

/-- Members are read as an object, whose brace has been read. -/
theorem readValue_object {fuel : Nat} {cs rest : List Char} {members : List (String × Json)}
    (h : readMembers fuel cs = some (named members, rest)) :
    readValue (fuel + 1) ('{' :: cs) = some (.object members, rest) := by
  rw [← readMembers_skipSpace] at h
  simp only [readValue, skipSpace_cons (c := '{') (by decide)]
  split
  · rename_i heq
    -- members begin with a quote
    cases fuel with
    | zero => cases h
    | succ fuel =>
      rw [heq, readMembers, skipSpace_cons (by decide)] at h
      cases h
  · rw [h, Option.map_some, ofMembers_named]

theorem reads_empty_object : Reads ['{', '}'] (.object []) := by
  refine reads_of_succ (by simp) fun fuel rest _ => ?_
  rfl

/-- One member is read, and what stands behind it decides whether there are more. -/
theorem ReadsMember.readMembers_append {text : List Char} {m : String × Json}
    (h : ReadsMember text m) {fuel : Nat} (hfuel : text.length ≤ fuel) (cs : List Char) :
    readMembers (fuel + 1) (text ++ cs) =
      (match skipSpace cs with
        | '}' :: rest => some (named [m], rest)
        | ',' :: rest =>
          (readMembers fuel rest).map fun found => ((some m.1, m.2) :: found.1, found.2)
        | _ => none : Option (List (Option String × Json) × List Char)) := by
  obtain @⟨gap, text, name, j, hgap, htext⟩ := h
  have hflat : gap ++ (quote name ++ ':' :: text) ++ cs =
      gap ++ '"' :: (quoteTail name ++ ':' :: (text ++ cs)) := by simp [quote_eq]
  simp only [List.length_append, List.length_cons] at hfuel
  have hvalue := htext fuel cs (by omega)
  rw [hflat]
  simp only [readMembers, skipSpace_append hgap, skipSpace_cons (c := '"') (by decide),
    readText_quoteTail, skipSpace_cons (c := ':') (by decide), hvalue]
  rfl

/-- The last member is the one before the brace. -/
theorem ReadsMember.readMembers_last {text : List Char} {m : String × Json}
    (h : ReadsMember text m) {gap : List Char} (hgap : Blank gap) {fuel : Nat}
    (hfuel : text.length ≤ fuel) (rest : List Char) :
    readMembers (fuel + 1) (text ++ (gap ++ '}' :: rest)) = some (named [m], rest) := by
  rw [h.readMembers_append hfuel, skipSpace_append hgap, skipSpace_cons (by decide)]
  rfl

/-- Behind a comma there are more members. -/
theorem ReadsMember.readMembers_more {text : List Char} {m : String × Json}
    (h : ReadsMember text m) {fuel : Nat} (hfuel : text.length ≤ fuel) (cs : List Char) :
    readMembers (fuel + 1) (text ++ ',' :: cs) =
      (readMembers fuel cs).map fun found => ((some m.1, m.2) :: found.1, found.2) := by
  rw [h.readMembers_append hfuel, skipSpace_cons (by decide)]
  rfl

/-- Members are read one after the other, with a comma between two of them and a brace behind the
last one. -/
theorem readMembers_intercalate {texts : List (List Char)} {members : List (String × Json)}
    (h : List.Forall₂ ReadsMember texts members) (hne : members ≠ []) {gap : List Char}
    (hgap : Blank gap) (fuel : Nat) (rest : List Char)
    (hfuel : ([','].intercalate texts).length < fuel) :
    readMembers fuel ([','].intercalate texts ++ (gap ++ '}' :: rest)) =
      some (named members, rest) := by
  induction h generalizing fuel with
  | nil => exact absurd rfl hne
  | @cons text m texts members hread htail ih =>
    obtain ⟨fuel, rfl⟩ : ∃ n, fuel = n + 1 := ⟨fuel - 1, by omega⟩
    cases htail with
    | nil =>
      rw [List.intercalate_singleton] at hfuel ⊢
      exact hread.readMembers_last hgap (by omega) rest
    | @cons text' m' texts members hread' htail =>
      rw [List.intercalate_cons_cons] at hfuel ⊢
      simp only [List.length_append, List.length_singleton] at hfuel
      have hrest := ih (List.cons_ne_nil m' members) fuel (by omega)
      rw [List.append_assoc, List.append_assoc, List.singleton_append,
        hread.readMembers_more (by omega), hrest, Option.map_some]
      rfl

/-- Members in braces, with commas between them and blanks before the closing brace. -/
theorem reads_object {texts : List (List Char)} {members : List (String × Json)}
    (h : List.Forall₂ ReadsMember texts members) (hne : members ≠ []) {gap : List Char}
    (hgap : Blank gap) :
    Reads ('{' :: ([','].intercalate texts ++ gap ++ ['}'])) (.object members) := by
  refine reads_of_succ (List.cons_ne_nil _ _) fun fuel rest hfuel => ?_
  simp only [List.length_cons, List.length_append, List.length_nil] at hfuel
  have hmembers := readMembers_intercalate h hne hgap fuel rest (by omega)
  have hflat : '{' :: ([','].intercalate texts ++ gap ++ ['}']) ++ rest =
      '{' :: ([','].intercalate texts ++ (gap ++ '}' :: rest)) := by simp
  rw [hflat]
  exact readValue_object hmembers

/-! ## Whole texts -/

/-- A text that is read as a value, with blanks behind it, is one of this value alone. -/
theorem Reads.parse? {text gap : List Char} {j : Json} (h : Reads text j) (hgap : Blank gap) :
    parse? (String.ofList (text ++ gap)) = some j := by
  have hvalue := h (2 * (text ++ gap).length + 2) gap (by rw [List.length_append]; omega)
  have hnothing : skipSpace gap = [] := by
    rw [← List.append_nil gap, skipSpace_append hgap]
    rfl
  unfold Json.parse?
  rw [String.toList_ofList, hvalue]
  dsimp only
  rw [if_pos hnothing]

end RecipeResolver.Json
