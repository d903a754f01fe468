import RecipeResolver.Toml.Value

/-!
# Writing TOML

The notation of keys and strings. A key stands without quotes where it can. A string takes the
first of these notations that can hold it without escapes but for tabs: double quotes, single
quotes, three double quotes, three single quotes; where none can, it is written with escapes. Three
quotes serve for strings over several lines, which begin on a line of their own. Between double
quotes a tab is always escaped, between single quotes never.
-/

namespace RecipeResolver.Toml.Writer

/-- A control character other than tab and line feed, which only an escape can stand for. -/
def needsEscape (c : Char) : Bool :=
  (c.toNat < 0x20 && c != '\t' && c != '\n') || c.toNat == 0x7F

/-- The longest run of a character. `current` is the run that ends here. -/
def longestRun (quote : Char) (current : Nat) : List Char → Nat
  | [] => current
  | c :: rest =>
    if c = quote then longestRun quote (current + 1) rest
    else max current (longestRun quote 0 rest)

/-- What decides the notation of a text. -/
structure Traits where
  singleQuotes : Nat
  doubleQuotes : Nat
  hasBackslash : Bool
  hasNewline : Bool
  needsEscape : Bool
  deriving DecidableEq, Repr

/-- The traits of a text. -/
def traits (cs : List Char) : Traits where
  singleQuotes := longestRun '\'' 0 cs
  doubleQuotes := longestRun '"' 0 cs
  hasBackslash := cs.contains '\\'
  hasNewline := cs.contains '\n'
  needsEscape := cs.any needsEscape

/-- The hexadecimal digits of a code, in upper case. -/
def upperHex (n : Nat) : List Char :=
  (Nat.toDigits 16 n).map Char.toUpper

/-- A control character as a code of four digits. -/
def codeEscape (c : Char) : List Char :=
  let digits := upperHex c.toNat
  ['\\', 'u'] ++ List.replicate (4 - digits.length) '0' ++ digits

/-- A text within double quotes. Over several lines, line feeds stand for themselves and only every
third quote in a row is escaped; `run` is the number of quotes in a row before this character. -/
def escapeAll (long : Bool) (run : Nat) : List Char → List Char
  | [] => []
  | c :: rest =>
    if c = '"' then
      if !long || run = 2 then ['\\', '"'] ++ escapeAll long 0 rest
      else '"' :: escapeAll long (run + 1) rest
    else
      (if c = '\\' then ['\\', '\\']
        else if c = '\x08' then ['\\', 'b']
        else if c = '\t' then ['\\', 't']
        else if c = '\n' then (if long then ['\n'] else ['\\', 'n'])
        else if c = '\x0c' then ['\\', 'f']
        else if c = '\x0d' then ['\\', 'r']
        else if c.toNat < 0x20 ∨ c.toNat = 0x7F then codeEscape c
        else [c]) ++ escapeAll long 0 rest

/-- A text between two marks. -/
def between (mark cs : List Char) : List Char :=
  mark ++ cs ++ mark

/-- A text between two marks of three quotes. A text with line feeds begins on a line of its own. -/
def betweenLong (quote : Char) (hasNewline : Bool) (cs : List Char) : List Char :=
  List.replicate 3 quote ++ (if hasNewline then ['\n'] else []) ++ cs ++ List.replicate 3 quote

/-- A string. -/
def string (s : String) : String :=
  let cs := s.toList
  let t := traits cs
  String.ofList <|
    if !t.needsEscape && !t.hasBackslash && t.doubleQuotes = 0 && !t.hasNewline then
      between ['"'] (escapeAll false 0 cs)
    else if !t.needsEscape && t.singleQuotes = 0 && !t.hasNewline then between ['\''] cs
    else if !t.needsEscape && !t.hasBackslash && t.doubleQuotes ≤ 2 then
      betweenLong '"' t.hasNewline (escapeAll true 0 cs)
    else if !t.needsEscape && t.singleQuotes ≤ 2 then betweenLong '\'' t.hasNewline cs
    else if t.hasNewline then betweenLong '"' true (escapeAll true 0 cs)
    else between ['"'] (escapeAll false 0 cs)

/-- A key; it always stands on one line. -/
def key (s : String) : String :=
  let cs := s.toList
  let t := traits cs
  let escapes := t.needsEscape || t.hasNewline
  if !cs.isEmpty && cs.all isBareKeyChar then s
  else
    String.ofList <|
      if !escapes && (t.hasBackslash || t.doubleQuotes ≠ 0) && t.singleQuotes = 0 then
        between ['\''] cs
      else between ['"'] (escapeAll false 0 cs)

/-- A truth value. -/
def boolean (b : Bool) : String :=
  if b then "true" else "false"

/-- The line of a header. -/
def header (name : String) : String :=
  "[" ++ key name ++ "]\n"

/-- The line of an assignment, whose value is written already. -/
def assignment (name value : String) : String :=
  key name ++ " = " ++ value ++ "\n"

end RecipeResolver.Toml.Writer
