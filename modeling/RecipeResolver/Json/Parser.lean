import RecipeResolver.Json.Basic
import RecipeResolver.Text.Hexadecimal

/-!
# Reading JSON

`Json.parse?` reads one value that makes up the whole text, blanks around it aside. Each reader
takes the remaining characters and gives a value with what remains after it. Every reader of a
nested value has less fuel than the one that calls it, and the fuel is reckoned from the length of
the text, so it never runs out.
-/

namespace RecipeResolver.Json

/-- The blanks between tokens. -/
def isSpace (c : Char) : Bool :=
  c == ' ' || c == '\t' || c == '\n' || c == '\x0d'

/-- What remains after blanks. -/
def skipSpace (cs : List Char) : List Char :=
  cs.dropWhile isSpace

/-! ## Strings -/

/-- What a string holds before the halves of characters are put together. -/
inductive Piece where
  | char (c : Char)
  /-- One half of a surrogate pair. -/
  | half (code : Nat)
  deriving DecidableEq, Repr

/-- The piece of a 16-bit code. -/
def Piece.ofCode (n : Nat) : Piece :=
  if 0xD800 ≤ n ∧ n ≤ 0xDFFF then .half n else .char (Char.ofNat n)

/-- The value of four hexadecimal digits. -/
def code? (a b c d : Char) : Option Nat := do
  let high := (← Text.hexValue? a) * 16 + (← Text.hexValue? b)
  let low := (← Text.hexValue? c) * 16 + (← Text.hexValue? d)
  return high * 256 + low

/-- What a backslash and one more character stand for. -/
def escaped? (c : Char) : Option Char :=
  match c with
  | '"' => some '"'
  | '\\' => some '\\'
  | '/' => some '/'
  | 'b' => some '\x08'
  | 'f' => some '\x0c'
  | 'n' => some '\n'
  | 'r' => some '\x0d'
  | 't' => some '\t'
  | _ => none

/-- The pieces of a string up to its closing quote; the opening one has been read. -/
def readPieces : List Char → Option (List Piece × List Char)
  | [] => none
  | '"' :: rest => some ([], rest)
  | '\\' :: 'u' :: a :: b :: c :: d :: rest =>
    match code? a b c d, readPieces rest with
    | some n, some (pieces, rest) => some (.ofCode n :: pieces, rest)
    | _, _ => none
  | '\\' :: c :: rest =>
    match escaped? c, readPieces rest with
    | some e, some (pieces, rest) => some (.char e :: pieces, rest)
    | _, _ => none
  | c :: rest =>
    if c = '\\' ∨ c.toNat < 0x20 then none
    else
      match readPieces rest with
      | some (pieces, rest) => some (.char c :: pieces, rest)
      | none => none

/-- The text of the pieces, in which a high half and the low half after it make one character. A
half without its counterpart is no text. -/
def joinPieces : List Piece → Option (List Char)
  | [] => some []
  | .char c :: rest => (joinPieces rest).map (c :: ·)
  | .half high :: .half low :: rest =>
    if high < 0xDC00 ∧ 0xDC00 ≤ low then
      (joinPieces rest).map
        (Char.ofNat (0x10000 + (high - 0xD800) * 0x400 + (low - 0xDC00)) :: ·)
    else none
  | .half _ :: _ => none

/-- A string up to its closing quote, with its text if it has one. -/
def readText (cs : List Char) : Option (Option String × List Char) :=
  (readPieces cs).map fun (pieces, rest) => ((joinPieces pieces).map String.ofList, rest)

/-! ## Numbers -/

/-- The digits in front, which there must be, and what remains. -/
def readDigits (cs : List Char) : Option (List Char × List Char) :=
  match cs.takeWhile Char.isDigit with
  | [] => none
  | digits => some (digits, cs.dropWhile Char.isDigit)

/-- The whole part: one zero, or digits that do not begin with one. -/
def readWhole : List Char → Option (List Char × List Char)
  | '0' :: rest => if (rest.head?.map Char.isDigit).getD false then none else some (['0'], rest)
  | cs => readDigits cs

/-- The digits after a point, if there is one. -/
def readFraction : List Char → Option (List Char × List Char)
  | '.' :: rest => (readDigits rest).map fun (digits, rest) => ('.' :: digits, rest)
  | cs => some ([], cs)

/-- The exponent, if there is one. -/
def readExponent : List Char → Option (List Char × List Char)
  | c :: rest =>
    if c = 'e' ∨ c = 'E' then
      match rest with
      | '+' :: rest => (readDigits rest).map fun (digits, rest) => (c :: '+' :: digits, rest)
      | '-' :: rest => (readDigits rest).map fun (digits, rest) => (c :: '-' :: digits, rest)
      | _ => (readDigits rest).map fun (digits, rest) => (c :: digits, rest)
    else some ([], c :: rest)
  | [] => some ([], [])

/-- The sign, if there is one. -/
def readSign : List Char → List Char × List Char
  | '-' :: rest => (['-'], rest)
  | cs => ([], cs)

/-- A number, kept as it is written. -/
def readNumber (cs : List Char) : Option (Json × List Char) := do
  let (sign, cs) := readSign cs
  let (whole, cs) ← readWhole cs
  let (fraction, cs) ← readFraction cs
  let (exponent, cs) ← readExponent cs
  return (.number (String.ofList (sign ++ whole ++ fraction ++ exponent)), cs)

/-! ## Values -/

/-- The names of an object's members, unless one of them is no text. -/
def ofMembers (members : List (Option String × Json)) : Json :=
  match members.mapM fun (name, value) => name.map fun name => (name, value) with
  | some members => .object members
  | none => .textless

mutual

/-- A value. -/
def readValue : Nat → List Char → Option (Json × List Char)
  | 0, _ => none
  | fuel + 1, cs =>
    match skipSpace cs with
    | [] => none
    | 'n' :: 'u' :: 'l' :: 'l' :: rest => some (.null, rest)
    | 't' :: 'r' :: 'u' :: 'e' :: rest => some (.bool true, rest)
    | 'f' :: 'a' :: 'l' :: 's' :: 'e' :: rest => some (.bool false, rest)
    | '"' :: rest =>
      (readText rest).map fun (text, rest) => ((text.map Json.string).getD .textless, rest)
    | '[' :: rest =>
      match skipSpace rest with
      | ']' :: rest => some (.array [], rest)
      | rest => (readItems fuel rest).map fun (items, rest) => (.array items, rest)
    | '{' :: rest =>
      match skipSpace rest with
      | '}' :: rest => some (.object [], rest)
      | rest => (readMembers fuel rest).map fun (members, rest) => (ofMembers members, rest)
    | c :: rest => readNumber (c :: rest)

/-- The items of an array up to its closing bracket. -/
def readItems : Nat → List Char → Option (List Json × List Char)
  | 0, _ => none
  | fuel + 1, cs =>
    match readValue fuel cs with
    | none => none
    | some (item, rest) =>
      match skipSpace rest with
      | ']' :: rest => some ([item], rest)
      | ',' :: rest => (readItems fuel rest).map fun (items, rest) => (item :: items, rest)
      | _ => none

/-- The members of an object up to its closing brace. -/
def readMembers : Nat → List Char → Option (List (Option String × Json) × List Char)
  | 0, _ => none
  | fuel + 1, cs =>
    match skipSpace cs with
    | '"' :: rest =>
      match readText rest with
      | none => none
      | some (name, rest) =>
        match skipSpace rest with
        | ':' :: rest =>
          match readValue fuel rest with
          | none => none
          | some (value, rest) =>
            match skipSpace rest with
            | '}' :: rest => some ([(name, value)], rest)
            | ',' :: rest =>
              (readMembers fuel rest).map fun (members, rest) => ((name, value) :: members, rest)
            | _ => none
        | _ => none
    | _ => none

end

/-- The value that a text spells. -/
def parse? (s : String) : Option Json :=
  match readValue (2 * s.toList.length + 2) s.toList with
  | some (value, rest) => if skipSpace rest = [] then some value else none
  | none => none

end RecipeResolver.Json
