import RecipeResolver.Toml.Scalar

/-!
# Reading TOML

`Toml.parse?` reads a whole document into its table of entries. A document is read as lines: an
assignment, a header, or nothing; an assignment goes on over several lines where its value does. The
table is then built from the lines by the rules of `Toml.ofBlocks`.
-/

namespace RecipeResolver.Toml

/-- Arrays and tables in braces may be nested less deep than this, and dotted keys have fewer
parts. -/
def depthLimit : Nat := 80

/-! ## Keys -/

/-- One part of a key, with or without quotes. -/
def readKeyPart (cs : List Char) : Option (String × List Char) :=
  match cs with
  | '"' :: rest => (readBasic (rest.length + 1) rest).map fun (k, rest) => (String.ofList k, rest)
  | '\'' :: rest => (readLiteral rest).map fun (k, rest) => (String.ofList k, rest)
  | _ =>
    match cs.takeWhile isBareKeyChar with
    | [] => none
    | part => some (String.ofList part, cs.dropWhile isBareKeyChar)

/-- The parts of a key, with dots between them and blanks around each. The fuel is the number of
parts that there may be. -/
def readKeyParts : Nat → List Char → Option (List String × List Char)
  | 0, _ => none
  | fuel + 1, cs => do
    let (part, rest) ← readKeyPart (skipBlanks cs)
    match skipBlanks rest with
    | '.' :: rest => do
      let (parts, rest) ← readKeyParts fuel rest
      return (part :: parts, rest)
    | rest => return ([part], rest)

/-- A key as the path to its table and its last part. -/
def readKey (cs : List Char) : Option ((List String × String) × List Char) := do
  let (parts, rest) ← readKeyParts (depthLimit - 1) cs
  return ((parts.dropLast, ← parts.getLast?), rest)

/-! ## Values -/

/-- What remains after blanks, line ends and comments within an array. -/
def skipFiller (inComment : Bool) : List Char → List Char
  | [] => []
  | '\n' :: rest => skipFiller false rest
  | '\x0d' :: '\n' :: rest => skipFiller false rest
  | c :: rest =>
    if inComment then
      if isPlain c then skipFiller true rest else c :: rest
    else if c = '#' then skipFiller true rest
    else if isBlank c then skipFiller false rest
    else c :: rest

/-- The items of an array up to its closing bracket; a comma may follow the last one. The fuel
bounds the number of items. -/
def readItems (value : List Char → Option (Toml × List Char)) :
    Nat → List Char → Option (List Toml × List Char)
  | 0, _ => none
  | fuel + 1, cs =>
    match skipFiller false cs with
    | ']' :: rest => some ([], rest)
    | cs => do
      let (item, rest) ← value cs
      match skipFiller false rest with
      | ',' :: rest => do
        let (items, rest) ← readItems value fuel rest
        return (item :: items, rest)
      | ']' :: rest => return ([item], rest)
      | _ => none

/-- A key, an equals sign and a value. -/
def readAssignment (value : List Char → Option (Toml × List Char)) (cs : List Char) :
    Option (Assignment × List Char) := do
  let ((path, key), rest) ← readKey cs
  let rest ← Text.after? ['='] rest
  let (v, rest) ← value (skipBlanks rest)
  return ({ path, key, value := v }, rest)

/-- The assignments of a table in braces, up to its closing brace; none may follow the last comma.
The fuel bounds the number of assignments. -/
def readPairs (value : List Char → Option (Toml × List Char)) :
    Nat → List Char → Option (List Assignment × List Char)
  | 0, _ => none
  | fuel + 1, cs => do
    let (a, rest) ← readAssignment value cs
    match skipBlanks rest with
    | ',' :: rest => do
      let (pairs, rest) ← readPairs value fuel rest
      return (a :: pairs, rest)
    | '}' :: rest => return ([a], rest)
    | _ => none

mutual

/-- Closes a value: tables from dotted keys become tables in braces. -/
def close : Toml → Toml
  | .table .dotted entries => .inline (closeEntries entries)
  | v => v

/-- Closes the values of entries. -/
def closeEntries : List (String × Toml) → List (String × Toml)
  | [] => []
  | (key, value) :: rest => (key, close value) :: closeEntries rest

end

/-- A value. The fuel is the depth to which it may be nested. -/
def readValue : Nat → List Char → Option (Toml × List Char)
  | depth, cs =>
    match cs, depth with
    | 't' :: 'r' :: 'u' :: 'e' :: rest, _ => some (.boolean true, rest)
    | 'f' :: 'a' :: 'l' :: 's' :: 'e' :: rest, _ => some (.boolean false, rest)
    | '"' :: _, _ => (readString cs).map fun (s, rest) => (.string s, rest)
    | '\'' :: _, _ => (readString cs).map fun (s, rest) => (.string s, rest)
    | '[' :: rest, depth + 1 => do
      let (items, rest) ← readItems (readValue depth) (rest.length + 1) rest
      return (.array items, rest)
    | '{' :: rest, depth + 1 =>
      match skipBlanks rest with
      | '}' :: rest => some (.inline [], rest)
      | rest => do
        let (pairs, rest) ← readPairs (readValue depth) (rest.length + 1) rest
        return (.inline (closeEntries (← fill pairs [])), rest)
    | _, _ => readScalar cs

/-! ## Documents -/

/-- A line of a document. -/
inductive Line where
  | blank
  | assignment (a : Assignment)
  | header (repeated : Bool) (path : List String) (key : String)

/-- What remains after the end of a line, before which there may be a comment. -/
def lineEnd? (cs : List Char) : Option (List Char) :=
  let cs := skipBlanks cs
  let cs := if cs.head? = some '#' then cs.dropWhile isPlain else cs
  if cs.isEmpty then some [] else newline? cs

/-- A line, up to its end. -/
def readLine (cs : List Char) : Option (Line × List Char) := do
  match skipBlanks cs with
  | '[' :: '[' :: rest => do
    let ((path, key), rest) ← readKey rest
    let rest ← lineEnd? (← Text.after? [']', ']'] rest)
    return (.header true path key, rest)
  | '[' :: rest => do
    let ((path, key), rest) ← readKey rest
    let rest ← lineEnd? (← Text.after? [']'] rest)
    return (.header false path key, rest)
  | cs =>
    match lineEnd? cs with
    | some rest => return (.blank, rest)
    | none => do
      let (a, rest) ← readAssignment (readValue (depthLimit - 1)) cs
      return (.assignment a, ← lineEnd? rest)

/-- The lines of a document. The fuel is the number of characters that remain. -/
def readLines : Nat → List Char → Option (List Line)
  | _, [] => some []
  | 0, _ => none
  | fuel + 1, cs => do
    let (line, rest) ← readLine cs
    return line :: (← readLines fuel rest)

/-- Groups lines under their headers: the assignments before the first one, and the blocks. -/
def grouped : List Line → List Assignment × List Block
  | [] => ([], [])
  | .blank :: rest => grouped rest
  | .assignment a :: rest =>
    let (assignments, blocks) := grouped rest
    (a :: assignments, blocks)
  | .header repeated path key :: rest =>
    let (assignments, blocks) := grouped rest
    ([], { repeated, path, key, assignments } :: blocks)

/-- The entries of a document. A byte order mark in front is passed over. -/
def parse? (s : String) : Option Entries := do
  let cs := s.toList
  let cs := if cs.head? = some '\uFEFF' then cs.drop 1 else cs
  let (assignments, blocks) := grouped (← readLines (cs.length + 1) cs)
  ofBlocks assignments blocks

end RecipeResolver.Toml
