/-!
# JSON values

The values of the data format JSON. An object keeps its members in order, repeated names included; a
number keeps its text, as nothing here computes with one.
-/

namespace RecipeResolver

/-- A JSON value. -/
inductive Json where
  | null
  | bool (value : Bool)
  /-- A number as it is written. -/
  | number (text : String)
  | string (text : String)
  | array (items : List Json)
  | object (members : List (String × Json))
  /-- A well-formed string, or an object with such a name, that is no text because an escape in it
  stands for half a character. -/
  | textless

end RecipeResolver
