import RecipeResolver.Interchange.Profile
import RecipeResolver.Resolution.Metadata
import RecipeResolver.Recipe.Identity
import RecipeResolver.Recipe.Requirement

/-!
# JSON forms of package values

How flags, packages, identities and published metadata are written as JSON and read back.
-/

namespace RecipeResolver

/-- A list of texts. -/
def Json.ofTexts (texts : List String) : Json := .array (texts.map .string)

/-- A map from texts to texts. -/
def Json.ofTextMap (m : OrderedMap String String) : Json :=
  .object (m.entries.map fun (key, value) => (key, .string value))

namespace Flag

/-- An object with all fields. -/
def toJson (f : Flag) : Json :=
  .object [("name", .string f.name), ("value", .bool f.value), ("default", .bool f.byDefault)]

/-- The flag of an object. -/
def ofJson? (j : Json) : Option Flag := do
  match ← j.fields? ["name", "value", "default"] 3 with
  | [name, value, byDefault] =>
    return { name := ← Json.required? Json.text? name
             value := ← Json.required? Json.bool? value
             byDefault := ← Json.required? Json.bool? byDefault }
  | _ => none

end Flag

namespace NormalizedFlags

/-- The list of the flags. -/
def toJson (s : NormalizedFlags) : Json := .array (s.flags.map Flag.toJson)

end NormalizedFlags

namespace PackageRef

/-- An object with both parts. -/
def toJson (r : PackageRef) : Json :=
  .object [("name", .string r.name), ("version", .string r.version)]

/-- The reference of an object. -/
def ofJson? (j : Json) : Option PackageRef := do
  match ← j.fields? ["name", "version"] 2 with
  | [name, version] =>
    return { name := ← Json.required? Json.text? name
             version := ← Json.required? Json.text? version }
  | _ => none

end PackageRef

namespace OptionOverride

/-- An object with all fields. -/
def toJson (o : OptionOverride) : Json :=
  .object [("package", .string o.package), ("option", .string o.option), ("value", .bool o.value)]

/-- The override of an object. -/
def ofJson? (j : Json) : Option OptionOverride := do
  match ← j.fields? ["package", "option", "value"] 3 with
  | [package, option, value] =>
    return { package := ← Json.required? Json.text? package
             option := ← Json.required? Json.text? option
             value := ← Json.required? Json.bool? value }
  | _ => none

end OptionOverride

namespace Identity

/-- An object with all fields. -/
def toJson (i : Identity) : Json :=
  .object
    [("name", .string i.name), ("version", .string i.version), ("url", .string i.url),
      ("author", .string i.author), ("settings", .ofTexts i.settings)]

/-- The identity of an object. -/
def ofJson? (j : Json) : Option Identity := do
  match ← j.fields? ["name", "version", "url", "author", "settings"] 5 with
  | [name, version, url, author, settings] =>
    return { name := ← Json.required? Json.text? name
             version := ← Json.required? Json.text? version
             url := ← Json.required? Json.text? url
             author := ← Json.required? Json.text? author
             settings := ← Json.required? (Json.list? Json.text?) settings }
  | _ => none

end Identity

namespace Generator

/-- The name of the convention. -/
def toJson (g : Generator) : Json := .string g.name

/-- The convention of a name. -/
def ofJson? (j : Json) : Option Generator := j.choice?.bind ofName?

end Generator

/-- A map from naming conventions to names. -/
def Json.ofNames (m : OrderedMap Generator String) : Json :=
  .object (m.entries.map fun (g, name) => (g.name, .string name))

/-- Reads a map from naming conventions to names. -/
def Json.names? (j : Json) : Option (OrderedMap Generator String) :=
  j.map? Generator.ofName? Json.text?

/-- Reads a map from texts to texts. -/
def Json.textMap? (j : Json) : Option (OrderedMap String String) :=
  j.map? some Json.text?

namespace Component

/-- An object with all fields. -/
def toJson (c : Component) : Json :=
  .object
    [("name", .string c.name), ("libs", .ofTexts c.libs), ("requires", .ofTexts c.requires),
      ("defines", .ofTexts c.defines), ("names", .ofNames c.names),
      ("properties", .ofTextMap c.properties)]

/-- The component of an object. -/
def ofJson? (j : Json) : Option Component := do
  match ← j.fields? ["name", "libs", "requires", "defines", "names", "properties"] 6 with
  | [name, libs, requires, defines, names, properties] =>
    return { name := ← Json.required? Json.text? name
             libs := ← Json.required? (Json.list? Json.text?) libs
             requires := ← Json.required? (Json.list? Json.text?) requires
             defines := ← Json.required? (Json.list? Json.text?) defines
             names := ← Json.required? Json.names? names
             properties := ← Json.required? Json.textMap? properties }
  | _ => none

end Component

namespace PackageMetadata

/-- An object with all fields. -/
def toJson (m : PackageMetadata) : Json :=
  .object
    [("name", .string m.name), ("defines", .ofTexts m.defines), ("names", .ofNames m.names),
      ("filenames", .ofNames m.filenames), ("properties", .ofTextMap m.properties),
      ("components", .array (m.components.map Component.toJson))]

/-- The metadata of an object. -/
def ofJson? (j : Json) : Option PackageMetadata := do
  match ← j.fields? ["name", "defines", "names", "filenames", "properties", "components"] 6 with
  | [name, defines, names, filenames, properties, components] =>
    return { name := ← Json.required? Json.text? name
             defines := ← Json.required? (Json.list? Json.text?) defines
             names := ← Json.required? Json.names? names
             filenames := ← Json.required? Json.names? filenames
             properties := ← Json.required? Json.textMap? properties
             components := ← Json.required? (Json.list? Component.ofJson?) components }
  | _ => none

end PackageMetadata

end RecipeResolver
