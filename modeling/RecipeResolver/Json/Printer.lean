import RecipeResolver.Json.Basic
import RecipeResolver.Text.Hexadecimal

/-!
# Writing JSON

Two layouts of the same values: `Json.compact` without any blanks, and `Json.pretty` with one member
or item a line, indented by two spaces. Strings are escaped alike in both.
-/

namespace RecipeResolver.Json

/-! ## Strings -/

/-- A character of a string: quotes, backslashes and control characters are escaped, all others
stand for themselves. -/
def escapeChar (c : Char) : List Char :=
  if c = '"' then ['\\', '"']
  else if c = '\\' then ['\\', '\\']
  else if c = '\x08' then ['\\', 'b']
  else if c = '\x0c' then ['\\', 'f']
  else if c = '\n' then ['\\', 'n']
  else if c = '\x0d' then ['\\', 'r']
  else if c = '\t' then ['\\', 't']
  else if c.toNat < 0x20 then ['\\', 'u', '0', '0'] ++ Text.hexPair c.toNat
  else [c]

/-- A string in quotes. -/
def quote (s : String) : List Char :=
  '"' :: s.toList.flatMap escapeChar ++ ['"']

/-! ## Compact layout -/

mutual

/-- The value without blanks. A value that is no text cannot be written; it stands as `null`. -/
def compactChars : Json → List Char
  | .null => ['n', 'u', 'l', 'l']
  | .bool true => ['t', 'r', 'u', 'e']
  | .bool false => ['f', 'a', 'l', 's', 'e']
  | .number text => text.toList
  | .string text => quote text
  | .array items => '[' :: (compactItems items ++ [']'])
  | .object members => '{' :: (compactMembers members ++ ['}'])
  | .textless => ['n', 'u', 'l', 'l']

/-- Items with commas between them. -/
def compactItems : List Json → List Char
  | [] => []
  | item :: rest =>
    match rest with
    | [] => compactChars item
    | _ :: _ => compactChars item ++ ',' :: compactItems rest

/-- Members with commas between them. -/
def compactMembers : List (String × Json) → List Char
  | [] => []
  | (name, value) :: rest =>
    match rest with
    | [] => quote name ++ ':' :: compactChars value
    | _ :: _ => quote name ++ ':' :: (compactChars value ++ ',' :: compactMembers rest)

end

/-- The value without blanks, as a text. -/
def compact (j : Json) : String :=
  String.ofList j.compactChars

/-! ## Pretty layout -/

/-- The end of a line and the indentation of the next one. -/
def newline (depth : Nat) : List Char :=
  '\n' :: List.replicate (2 * depth) ' '

mutual

/-- The value over several lines, the first of which is already indented by `depth` steps. -/
def prettyChars (depth : Nat) : Json → List Char
  | .null => ['n', 'u', 'l', 'l']
  | .bool true => ['t', 'r', 'u', 'e']
  | .bool false => ['f', 'a', 'l', 's', 'e']
  | .number text => text.toList
  | .string text => quote text
  | .array items =>
    match items with
    | [] => ['[', ']']
    | _ :: _ => '[' :: (prettyItems (depth + 1) items ++ newline depth ++ [']'])
  | .object members =>
    match members with
    | [] => ['{', '}']
    | _ :: _ => '{' :: (prettyMembers (depth + 1) members ++ newline depth ++ ['}'])
  | .textless => ['n', 'u', 'l', 'l']

/-- Items, each on a line of its own. -/
def prettyItems (depth : Nat) : List Json → List Char
  | [] => []
  | item :: rest =>
    match rest with
    | [] => newline depth ++ prettyChars depth item
    | _ :: _ => newline depth ++ prettyChars depth item ++ ',' :: prettyItems depth rest

/-- Members, each on a line of its own. -/
def prettyMembers (depth : Nat) : List (String × Json) → List Char
  | [] => []
  | (name, value) :: rest =>
    match rest with
    | [] => newline depth ++ quote name ++ ':' :: ' ' :: prettyChars depth value
    | _ :: _ =>
      newline depth ++ quote name ++ ':' :: ' ' ::
        (prettyChars depth value ++ ',' :: prettyMembers depth rest)

end

/-- The value over several lines, as a text. -/
def pretty (j : Json) : String :=
  String.ofList (j.prettyChars 0)

end RecipeResolver.Json
