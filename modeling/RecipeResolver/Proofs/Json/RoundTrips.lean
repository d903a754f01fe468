import RecipeResolver.Interchange.Profile
import RecipeResolver.Proofs.Json.Layouts

/-!
# Encoders and decoders that belong together

`RoundTrips encode decode?` is what the encoder and the decoder of a type promise each other: what
is encoded is data that can be written and read back, and it is decoded to what it was. The promise
passes from values to lists of them, to maps and to optional values. A record is an object with one
member a field, and `fields?_object` says that its decoder finds each of them; so a record keeps the
promise if its fields do.
-/

namespace RecipeResolver.Json

/-- What is encoded can be written, and it is decoded to what it was. -/
structure RoundTrips {α : Type} (encode : α → Json) (decode? : Json → Option α) : Prop where
  plain (a : α) : Plain (encode a)
  decodes (a : α) : decode? (encode a) = some a

/-- Every value is got back from its compact text. -/
def Recovers {α : Type} (encode : α → Json) (decode? : Json → Option α) : Prop :=
  ∀ a, (parse? (encode a).compact).bind decode? = some a

namespace RoundTrips

variable {α : Type} {encode : α → Json} {decode? : Json → Option α}

/-- An encoder whose values can be decoded does not mix them up. -/
theorem injective (h : RoundTrips encode decode?) {a b : α} (hab : encode a = encode b) :
    a = b := by
  have hdecoded := h.decodes a
  rw [hab, h.decodes b] at hdecoded
  exact (Option.some.inj hdecoded).symm

theorem recovers (h : RoundTrips encode decode?) : Recovers encode decode? := by
  intro a
  rw [parse?_compact (h.plain a), Option.bind_some, h.decodes a]

/-- A value is got back from its pretty text, with blanks behind it. -/
theorem pretty_append (h : RoundTrips encode decode?) (a : α) {gap : String}
    (hgap : Blank gap.toList) :
    (parse? ((encode a).pretty ++ gap)).bind decode? = some a := by
  rw [parse?_pretty_append (h.plain a) hgap, Option.bind_some, h.decodes a]

/-! ## Values, lists and maps -/

theorem text : RoundTrips Json.string text? where
  plain s := .string s
  decodes _ := rfl

theorem truth : RoundTrips Json.bool bool? where
  plain b := .bool b
  decodes _ := rfl

/-- Values that are decoded one by one are decoded together. -/
theorem mapM_decode {β : Type} {f : α → β} {g : β → Option α} (h : ∀ a, g (f a) = some a)
    (items : List α) : (items.map f).mapM g = some items := by
  have hsome : g ∘ f = fun a => pure a := funext h
  rw [List.mapM_map, hsome, List.mapM_pure, List.map_id']
  rfl

theorem list (h : RoundTrips encode decode?) :
    RoundTrips (fun items : List α => .array (items.map encode)) (list? decode?) where
  plain items := by
    refine .array fun j hj => ?_
    obtain ⟨a, -, rfl⟩ := List.mem_map.1 hj
    exact h.plain a
  decodes items := mapM_decode h.decodes items

/-- The keys of a map are read back if their names are. -/
theorem map {κ : Type} [Ord κ] [Std.TransOrd κ] [Std.LawfulEqOrd κ] {name : κ → String}
    {key? : String → Option κ} (hkey : ∀ k, key? (name k) = some k)
    (h : RoundTrips encode decode?) :
    RoundTrips (fun m : OrderedMap κ α => .object (m.entries.map fun e => (name e.1, encode e.2)))
      (map? key? decode?) where
  plain m := by
    refine .object fun member hmember => ?_
    obtain ⟨e, -, rfl⟩ := List.mem_map.1 hmember
    exact h.plain e.2
  decodes m := by
    have hentries := mapM_decode (f := fun e : κ × α => (name e.1, encode e.2))
      (g := fun member => do return (← key? member.1, ← decode? member.2))
      (fun e => by rw [hkey, h.decodes]; rfl) m.entries
    show (do return OrderedMap.ofList (← List.mapM _ _)) = _
    rw [hentries]
    -- the entries are in order and their keys distinct, so none of them is lost
    exact congrArg some m.ofList_entries

/-! ## Fields -/

/-- An optional value is `null` only if there is none. -/
theorem optional (h : RoundTrips encode decode?) (hnull : decode? .null = none) (a : Option α) :
    optional? decode? (some (ofOption encode a)) = some a := by
  cases a with
  | none => rfl
  | some a =>
    -- what is decoded cannot be the mark for no value
    have hne : encode a ≠ .null := by
      intro heq
      have hdecoded := h.decodes a
      rw [heq, hnull] at hdecoded
      cases hdecoded
    unfold ofOption
    rw [optional?, h.decodes a]
    · rfl
    · exact hne

theorem plain_ofOption (h : RoundTrips encode decode?) (a : Option α) :
    Plain (ofOption encode a) := by
  cases a with
  | none => exact .null
  | some a => exact h.plain a

end RoundTrips

/-! ## Records -/

/-- Of an object in which no name stands twice, each member is found by its name. -/
theorem valuesOf_of_mem {members : List (String × Json)} (h : (members.map Prod.fst).Nodup)
    {m : String × Json} (hm : m ∈ members) : valuesOf m.1 members = [m.2] := by
  induction members with
  | nil => cases hm
  | cons head rest ih =>
    rw [List.map_cons, List.nodup_cons] at h
    unfold valuesOf
    rcases List.mem_cons.1 hm with rfl | hrest
    · -- no later member has this name
      have hnone : rest.filter (fun member => member.1 == m.1) = [] := by
        rw [List.filter_eq_nil_iff]
        intro member hmember heq
        exact h.1 (beq_iff_eq.1 heq ▸ List.mem_map_of_mem hmember)
      rw [List.filter_cons, if_pos (beq_self_eq_true m.1), hnone, List.map_singleton]
    · have hne : ¬(head.1 == m.1) = true := fun heq =>
        h.1 (beq_iff_eq.1 heq ▸ List.mem_map_of_mem hrest)
      rw [List.filter_cons, if_neg hne]
      exact ih h.2 hrest

/-- The fields of an object whose members are these fields in order. -/
theorem fields?_object {names : List String} {members : List (String × Json)}
    (hnames : members.map Prod.fst = names) (h : names.Nodup) (needed : Nat) :
    (Json.object members).fields? names needed = some (members.map fun m => some m.2) := by
  subst hnames
  have honce : ((members.map Prod.fst).all fun name =>
      (valuesOf name members).length ≤ 1) = true := by
    rw [List.all_map, List.all_eq_true]
    intro m hm
    show decide ((valuesOf m.1 members).length ≤ 1) = true
    rw [valuesOf_of_mem h hm]
    rfl
  rw [fields?, if_pos honce, List.map_map]
  refine congrArg some (List.map_congr_left fun m hm => ?_)
  show (valuesOf m.1 members).head? = some m.2
  rw [valuesOf_of_mem h hm]
  rfl

/-- A record is got back if it is made of its fields as its decoder is given them. -/
theorem RoundTrips.record {α : Type} {names : List String} {needed : Nat}
    {members : α → List (String × Json)} {build? : List (Option Json) → Option α}
    (hnames : ∀ a, (members a).map Prod.fst = names) (hnodup : names.Nodup)
    (hplain : ∀ a, ∀ m ∈ members a, Plain m.2)
    (hbuild : ∀ a, build? ((members a).map fun m => some m.2) = some a) :
    RoundTrips (fun a => .object (members a)) (fun j => (j.fields? names needed).bind build?) where
  plain a := .object (hplain a)
  decodes a := by rw [fields?_object (hnames a) hnodup, Option.bind_some, hbuild a]

end RecipeResolver.Json
