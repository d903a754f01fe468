import RecipeResolver.Json.Basic
import RecipeResolver.OrderedMap

/-!
# Values from JSON

How typed values are taken out of JSON. A record is an object with its fields or the list of its
fields in order; fields that are not its own are passed over, and a field of its own may not stand
twice. A choice without content is its name, or an object with this name alone and `null` in it.
-/

namespace RecipeResolver.Json

/-- A text. -/
def text? : Json → Option String
  | .string s => some s
  | _ => none

/-- A truth value. -/
def bool? : Json → Option Bool
  | .bool b => some b
  | _ => none

/-- A list of values that are all read alike. -/
def list? {α : Type} (item? : Json → Option α) : Json → Option (List α)
  | .array items => items.mapM item?
  | _ => none

/-- A value that may be missing: `null`, or no field at all. -/
def optional? {α : Type} (value? : Json → Option α) : Option Json → Option (Option α)
  | none => some none
  | some .null => some none
  | some j => (value? j).map some

/-- A value that must be there. -/
def required? {α : Type} (value? : Json → Option α) (field : Option Json) : Option α :=
  field.bind value?

/-- A value that has a default when its field is left out. -/
def defaulted? {α : Type} (value? : Json → Option α) (byDefault : α) : Option Json → Option α
  | none => some byDefault
  | some j => value? j

/-- The values of the members of this name. -/
def valuesOf (name : String) (members : List (String × Json)) : List Json :=
  (members.filter fun member => member.1 == name).map Prod.snd

/-- The fields of a record in the order of their names, each with its value if it is there. Of a
list, the first `needed` fields must be there. -/
def fields? (names : List String) (needed : Nat) : Json → Option (List (Option Json))
  | .object members =>
    if names.all fun name => (valuesOf name members).length ≤ 1 then
      some (names.map fun name => (valuesOf name members).head?)
    else none
  | .array items =>
    if needed ≤ items.length ∧ items.length ≤ names.length then
      some ((List.range names.length).map fun i => items[i]?)
    else none
  | _ => none

/-- The name of a choice without content. -/
def choice? : Json → Option String
  | .string name => some name
  | .object [(name, .null)] => some name
  | _ => none

/-- A map whose keys are read from the names of an object; the last member of a key counts. -/
def map? {κ ν : Type} [Ord κ] [Std.TransOrd κ] [Std.LawfulEqOrd κ] (key? : String → Option κ)
    (value? : Json → Option ν) : Json → Option (OrderedMap κ ν)
  | .object members => do
    return .ofList (← members.mapM fun (name, value) => do return (← key? name, ← value? value))
  | _ => none

end RecipeResolver.Json
