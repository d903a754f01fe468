import RecipeResolver.Proofs.Json.Reading

/-!
# Both layouts can be read back

`Plain` are the values that are made of texts, truth values, lists and objects, as all data of this
library is. Each of them is read back from its compact and from its pretty layout, so either layout
determines the value. Both proofs are one induction on the value: a layout puts items and members
together with commas, which `reads_array` and `reads_object` know how to read.
-/

namespace RecipeResolver.Json

/-- The value holds no numbers and nothing that is no text. -/
inductive Plain : Json → Prop where
  | null : Plain .null
  | bool (value : Bool) : Plain (.bool value)
  | string (text : String) : Plain (.string text)
  | array {items : List Json} (h : ∀ j ∈ items, Plain j) : Plain (.array items)
  | object {members : List (String × Json)} (h : ∀ m ∈ members, Plain m.2) :
    Plain (.object members)

/-! ## Texts for items and members -/

/-- If every item has a text that is read as it, then the texts are read as the items. -/
theorem forall₂_reads {items : List Json} {write : Json → List Char}
    (h : ∀ j ∈ items, Reads (write j) j) : List.Forall₂ Reads (items.map write) items := by
  rw [List.forall₂_map_left_iff, List.forall₂_same]
  exact h

theorem forall₂_readsMember {members : List (String × Json)}
    {write : String × Json → List Char} (h : ∀ m ∈ members, ReadsMember (write m) m) :
    List.Forall₂ ReadsMember (members.map write) members := by
  rw [List.forall₂_map_left_iff, List.forall₂_same]
  exact h

/-- The first of several texts stands before the first comma. -/
theorem intercalate_map_cons_cons {α : Type} (write : α → List Char) (a b : α) (rest : List α) :
    [','].intercalate ((a :: b :: rest).map write) =
      write a ++ ',' :: [','].intercalate ((b :: rest).map write) := by
  rw [List.map_cons, List.map_cons, List.intercalate_cons_cons, List.append_assoc,
    List.singleton_append]

/-! ## The compact layout -/

/-- A member without blanks. -/
def compactMember (m : String × Json) : List Char := quote m.1 ++ ':' :: m.2.compactChars

theorem compactItems_eq (items : List Json) :
    compactItems items = [','].intercalate (items.map compactChars) := by
  induction items with
  | nil => rfl
  | cons item rest ih =>
    cases rest with
    | nil => rw [compactItems, List.map_singleton, List.intercalate_singleton]
    | cons item' rest =>
      rw [compactItems, ih, intercalate_map_cons_cons]

theorem compactMembers_eq (members : List (String × Json)) :
    compactMembers members = [','].intercalate (members.map compactMember) := by
  induction members with
  | nil => rfl
  | cons m rest ih =>
    cases rest with
    | nil => rw [compactMembers, List.map_singleton, List.intercalate_singleton, compactMember]
    | cons m' rest =>
      rw [compactMembers, ih, intercalate_map_cons_cons, compactMember, List.append_assoc,
        List.cons_append]

/-- A plain value is read back from its compact layout. -/
theorem reads_compactChars {j : Json} (h : Plain j) : Reads j.compactChars j := by
  induction h with
  | null => exact reads_null
  | bool value =>
    cases value with
    | true => exact reads_true
    | false => exact reads_false
  | string text => exact reads_quote text
  | @array items _ ih =>
    rw [compactChars, compactItems_eq]
    -- brackets with nothing between them are read in a way of their own
    by_cases hne : items = []
    · rw [hne]
      exact reads_empty_array
    · have hread := reads_array (forall₂_reads ih) hne Blank.nil
      rw [List.append_nil] at hread
      exact hread
  | @object members _ ih =>
    rw [compactChars, compactMembers_eq]
    by_cases hne : members = []
    · rw [hne]
      exact reads_empty_object
    · have hmembers : List.Forall₂ ReadsMember (members.map compactMember) members :=
        forall₂_readsMember fun m hm => .mk Blank.nil (ih m hm)
      have hread := reads_object hmembers hne Blank.nil
      rw [List.append_nil] at hread
      exact hread

/-- A plain value is what its compact layout spells. -/
theorem parse?_compact {j : Json} (h : Plain j) : parse? j.compact = some j := by
  have hread := (reads_compactChars h).parse? Blank.nil
  rw [List.append_nil] at hread
  exact hread

/-- The compact layout determines a plain value. -/
theorem compact_injective {a b : Json} (ha : Plain a) (hb : Plain b)
    (h : a.compact = b.compact) : a = b := by
  have hread := parse?_compact ha
  rw [h, parse?_compact hb] at hread
  exact (Option.some.inj hread).symm

/-! ## The pretty layout -/

/-- An item on a line of its own. -/
def prettyItem (depth : Nat) (j : Json) : List Char := newline depth ++ j.prettyChars depth

/-- A member on a line of its own. -/
def prettyMember (depth : Nat) (m : String × Json) : List Char :=
  newline depth ++ (quote m.1 ++ ':' :: ([' '] ++ m.2.prettyChars depth))

theorem blank_newline (depth : Nat) : Blank (newline depth) := by
  intro c hc
  unfold newline at hc
  rcases List.mem_cons.1 hc with rfl | hc
  · rfl
  · rw [List.eq_of_mem_replicate hc]
    rfl

theorem prettyItems_eq (depth : Nat) (items : List Json) :
    prettyItems depth items = [','].intercalate (items.map (prettyItem depth)) := by
  induction items with
  | nil => rfl
  | cons item rest ih =>
    cases rest with
    | nil => rw [prettyItems, List.map_singleton, List.intercalate_singleton, prettyItem]
    | cons item' rest =>
      rw [prettyItems, ih, intercalate_map_cons_cons, prettyItem]

theorem prettyMembers_eq (depth : Nat) (members : List (String × Json)) :
    prettyMembers depth members = [','].intercalate (members.map (prettyMember depth)) := by
  induction members with
  | nil => rfl
  | cons m rest ih =>
    cases rest with
    | nil =>
      rw [prettyMembers, List.map_singleton, List.intercalate_singleton, prettyMember]
      simp only [List.append_assoc, List.singleton_append]
    | cons m' rest =>
      rw [prettyMembers, ih, intercalate_map_cons_cons, prettyMember]
      simp only [List.append_assoc, List.cons_append, List.nil_append]

/-- A plain value is read back from its pretty layout at every depth. -/
theorem reads_prettyChars {j : Json} (h : Plain j) (depth : Nat) :
    Reads (j.prettyChars depth) j := by
  induction h generalizing depth with
  | null => exact reads_null
  | bool value =>
    cases value with
    | true => exact reads_true
    | false => exact reads_false
  | string text => exact reads_quote text
  | @array items _ ih =>
    cases items with
    | nil => exact reads_empty_array
    | cons item rest =>
      have hitems := forall₂_reads fun j hj =>
        (ih j hj (depth + 1)).blank_append (blank_newline (depth + 1))
      have hread := reads_array hitems (List.cons_ne_nil item rest) (blank_newline depth)
      rw [prettyChars, prettyItems_eq]
      exact hread
  | @object members _ ih =>
    cases members with
    | nil => exact reads_empty_object
    | cons m rest =>
      -- the blank behind a colon is read as one in front of the value
      have hblank : Blank [' '] := by
        intro c hc
        rw [List.mem_singleton.1 hc]
        rfl
      have hmembers : List.Forall₂ ReadsMember ((m :: rest).map (prettyMember (depth + 1)))
          (m :: rest) := forall₂_readsMember fun m hm =>
        .mk (blank_newline (depth + 1)) ((ih m hm (depth + 1)).blank_append hblank)
      have hread := reads_object hmembers (List.cons_ne_nil m rest) (blank_newline depth)
      rw [prettyChars, prettyMembers_eq]
      exact hread

/-- A plain value is what its pretty layout spells, also with blanks behind it. -/
theorem parse?_pretty_append {j : Json} (h : Plain j) {gap : String} (hgap : Blank gap.toList) :
    parse? (j.pretty ++ gap) = some j := by
  have hread := (reads_prettyChars h 0).parse? hgap
  rw [String.ofList_append, String.ofList_toList] at hread
  exact hread

end RecipeResolver.Json
