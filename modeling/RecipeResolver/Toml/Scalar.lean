import RecipeResolver.Text.Cut
import RecipeResolver.Text.Hexadecimal
import RecipeResolver.Toml.Value

/-!
# TOML numbers, dates and strings

Readers for the values of TOML that hold no others. Each takes the remaining characters and gives a
value with what remains after it.
-/

namespace RecipeResolver.Toml

/-! ## Blanks and line ends -/

/-- A blank within a line. -/
def isBlank (c : Char) : Bool :=
  c == ' ' || c == '\t'

/-- What remains after blanks. -/
def skipBlanks (cs : List Char) : List Char :=
  cs.dropWhile isBlank

/-- What remains after a line end, which is a line feed with or without a carriage return. -/
def newline? : List Char → Option (List Char)
  | '\n' :: rest => some rest
  | '\x0d' :: '\n' :: rest => some rest
  | _ => none

/-- The characters that may stand in comments; in strings, quotes and backslashes are set apart. -/
def isPlain (c : Char) : Bool :=
  c == '\t' || (0x20 ≤ c.toNat && c.toNat ≤ 0x7E) || 0x80 ≤ c.toNat

/-! ## Numbers -/

/-- A hexadecimal digit in either case. -/
def isHexDigit (c : Char) : Bool :=
  (Text.hexValue? c).isSome

/-- The value of a digit in any base up to sixteen. -/
def digitValue (c : Char) : Nat :=
  (Text.hexValue? c).getD 0

/-- The number of these digits. -/
def ofDigits (base : Nat) (digits : List Char) : Nat :=
  digits.foldl (fun n c => n * base + digitValue c) 0

/-- Further digits, each after at most one underscore; the underscores are dropped. -/
def moreDigits (isDigit : Char → Bool) : List Char → List Char × List Char
  | [] => ([], [])
  | '_' :: d :: rest =>
    if isDigit d then
      let (digits, rest) := moreDigits isDigit rest
      (d :: digits, rest)
    else ([], '_' :: d :: rest)
  | d :: rest =>
    if isDigit d then
      let (digits, rest) := moreDigits isDigit rest
      (d :: digits, rest)
    else ([], d :: rest)

/-- One or more digits. -/
def readDigits (isDigit : Char → Bool) : List Char → Option (List Char × List Char)
  | [] => none
  | d :: rest =>
    if isDigit d then
      let (digits, rest) := moreDigits isDigit rest
      some (d :: digits, rest)
    else none

/-- A sign, if there is one. -/
def readSign : List Char → List Char × List Char
  | '+' :: rest => (['+'], rest)
  | '-' :: rest => (['-'], rest)
  | cs => ([], cs)

/-- The digits of a whole number: one zero, or digits that do not begin with one. -/
def readWhole : List Char → Option (List Char × List Char)
  | '0' :: rest => some (['0'], rest)
  | cs => readDigits Char.isDigit cs

/-- The digits after a point; nothing is read where there is no point. -/
def readFraction : List Char → Option (List Char × List Char)
  | '.' :: rest => readDigits Char.isDigit rest
  | cs => some ([], cs)

/-- The sign and digits of an exponent; nothing is read where there is none. -/
def readExponent : List Char → Option ((List Char × List Char) × List Char)
  | c :: rest =>
    if c = 'e' ∨ c = 'E' then do
      let (sign, rest) := readSign rest
      let (digits, rest) ← readDigits Char.isDigit rest
      return ((sign, digits), rest)
    else some (([], []), c :: rest)
  | [] => some (([], []), [])

/-- The least number that is too large for a float. -/
def floatLimit : Nat := Nat.pow 2 1024 - Nat.pow 2 970

/-- Whether a decimal number fits a float. Far from the limit its number of digits decides. -/
def fitsFloat (digits : List Char) (exponent : Int) : Bool :=
  let digits := digits.dropWhile (· == '0')
  let size : Int := digits.length + exponent
  if digits.isEmpty || size < 300 then true
  else if size > 320 then false
  else if 0 ≤ exponent then ofDigits 10 digits * Nat.pow 10 exponent.toNat < floatLimit
  else ofDigits 10 digits < floatLimit * Nat.pow 10 (-exponent).toNat

/-- A float with a fraction or an exponent, or nothing if it has neither. A positive one must not be
too large. -/
def readFloat (sign whole : List Char) (cs : List Char) : Option (Toml × List Char) := do
  let (fraction, afterFraction) ← readFraction cs
  let ((exponentSign, exponent), rest) ← readExponent afterFraction
  guard (!(fraction.isEmpty && exponent.isEmpty))
  let magnitude : Int := ofDigits 10 exponent
  let exponentValue := if exponentSign = ['-'] then -magnitude else magnitude
  guard (sign = ['-'] || fitsFloat (whole ++ fraction) (exponentValue - fraction.length))
  let point := if fraction.isEmpty then [] else '.' :: fraction
  let scale := if exponent.isEmpty then [] else 'e' :: (exponentSign ++ exponent)
  return (.float (String.ofList (sign ++ whole ++ point ++ scale)), rest)

/-- A 64-bit integer. -/
def integer? (n : Int) : Option Toml :=
  if Int64.minValue.toInt ≤ n ∧ n ≤ Int64.maxValue.toInt then some (.integer n) else none

/-- An integer in another base than ten, after its mark. -/
def readRadix (base : Nat) (isDigit : Char → Bool) (cs : List Char) :
    Option (Toml × List Char) := do
  let (digits, rest) ← readDigits isDigit cs
  return (← integer? (ofDigits base digits), rest)

/-- An integer or a float. -/
def readNumber (cs : List Char) : Option (Toml × List Char) :=
  match cs with
  | '0' :: 'x' :: rest => readRadix 16 isHexDigit rest
  | '0' :: 'o' :: rest => readRadix 8 (fun c => '0' ≤ c && c ≤ '7') rest
  | '0' :: 'b' :: rest => readRadix 2 (fun c => c == '0' || c == '1') rest
  | _ =>
    let (sign, cs) := readSign cs
    match cs with
    | 'i' :: 'n' :: 'f' :: rest => some (.float (String.ofList (sign ++ ['i', 'n', 'f'])), rest)
    | 'n' :: 'a' :: 'n' :: rest => some (.float (String.ofList (sign ++ ['n', 'a', 'n'])), rest)
    | _ => do
      let (whole, rest) ← readWhole cs
      match rest with
      | c :: _ =>
        if c = '.' ∨ c = 'e' ∨ c = 'E' then readFloat sign whole rest
        else return (← integer? (signed sign whole), rest)
      | [] => return (← integer? (signed sign whole), rest)
where
  /-- The number of a sign and digits. -/
  signed (sign digits : List Char) : Int :=
    if sign = ['-'] then -(ofDigits 10 digits : Int) else ofDigits 10 digits

/-! ## Dates and times -/

/-- Exactly `n` digits. -/
def fixedDigits (n : Nat) (cs : List Char) : Option (List Char × List Char) :=
  let digits := cs.take n
  if digits.length = n ∧ digits.all Char.isDigit then some (digits, cs.drop n) else none

/-- A number of two digits between two bounds. -/
def readPart (low high : Nat) (cs : List Char) : Option (List Char × List Char) := do
  let (digits, rest) ← fixedDigits 2 cs
  guard (low ≤ ofDigits 10 digits ∧ ofDigits 10 digits ≤ high)
  return (digits, rest)

/-- The number of days of a month. -/
def daysIn (year month : Nat) : Nat :=
  if month = 2 then
    if year % 4 = 0 ∧ (year % 100 ≠ 0 ∨ year % 400 = 0) then 29 else 28
  else if month = 4 ∨ month = 6 ∨ month = 9 ∨ month = 11 then 30
  else 31

/-- A date `1979-05-27`. -/
def readDate (cs : List Char) : Option (List Char × List Char) := do
  let (year, rest) ← fixedDigits 4 cs
  let rest ← Text.after? ['-'] rest
  let (month, rest) ← readPart 1 12 rest
  let rest ← Text.after? ['-'] rest
  let (day, rest) ← readPart 1 31 rest
  guard (ofDigits 10 day ≤ daysIn (ofDigits 10 year) (ofDigits 10 month))
  return (year ++ '-' :: month ++ '-' :: day, rest)

/-- The fraction of a second in the standard spelling: nine digits at most, without zeros at the
end. -/
def standardFraction (digits : List Char) : List Char :=
  match ((digits.take 9).reverse.dropWhile (· == '0')).reverse with
  | [] => []
  | kept => '.' :: kept

/-- The fraction of a second, if there is one. -/
def readSecondFraction : List Char → Option (List Char × List Char)
  | '.' :: rest =>
    match rest.takeWhile Char.isDigit with
    | [] => none
    | digits => some (standardFraction digits, rest.dropWhile Char.isDigit)
  | cs => some ([], cs)

/-- A time `07:32:00.5`; a minute may have a leap second. -/
def readTime (cs : List Char) : Option (List Char × List Char) := do
  let (hour, rest) ← readPart 0 23 cs
  let rest ← Text.after? [':'] rest
  let (minute, rest) ← readPart 0 59 rest
  let rest ← Text.after? [':'] rest
  let (second, rest) ← readPart 0 60 rest
  let (fraction, rest) ← readSecondFraction rest
  return (hour ++ ':' :: minute ++ ':' :: second ++ fraction, rest)

/-- The offset from universal time, if there is one. An offset of nothing has a plus sign. -/
def readOffset : List Char → Option (List Char × List Char)
  | c :: rest =>
    if c = 'Z' ∨ c = 'z' then some (['Z'], rest)
    else if c = '+' ∨ c = '-' then do
      let (hour, rest) ← readPart 0 23 rest
      let rest ← Text.after? [':'] rest
      let (minute, rest) ← readPart 0 59 rest
      let sign := if ofDigits 10 (hour ++ minute) = 0 then '+' else c
      return (sign :: hour ++ ':' :: minute, rest)
    else some ([], c :: rest)
  | [] => some ([], [])

/-- Whether a time follows, as far as its first colon tells. -/
def timeFollows (cs : List Char) : Bool :=
  ((readPart 0 23 cs).bind fun (_, rest) => Text.after? [':'] rest).isSome

/-- A date with or without a time, the two divided by a `T` or a blank. -/
def readDateTime (cs : List Char) : Option (Toml × List Char) := do
  let (date, rest) ← readDate cs
  match rest with
  | c :: afterMark =>
    if (c = 'T' ∨ c = 't' ∨ c = ' ') ∧ timeFollows afterMark then do
      let (time, rest) ← readTime afterMark
      let (offset, rest) ← readOffset rest
      return (.datetime (String.ofList (date ++ 'T' :: time ++ offset)), rest)
    else return (.datetime (String.ofList date), rest)
  | [] => return (.datetime (String.ofList date), [])

/-- Whether a date follows, as far as its first hyphen tells. -/
def dateFollows (cs : List Char) : Bool :=
  ((fixedDigits 4 cs).bind fun (_, rest) => Text.after? ['-'] rest).isSome

/-- A date, a time or a number. -/
def readScalar (cs : List Char) : Option (Toml × List Char) :=
  if dateFollows cs then readDateTime cs
  else if timeFollows cs then
    (readTime cs).map fun (time, rest) => (.datetime (String.ofList time), rest)
  else readNumber cs

/-! ## Strings -/

/-- A character given by `n` hexadecimal digits. Only whole characters can be given so. -/
def readCode (n : Nat) (cs : List Char) : Option (Char × List Char) :=
  let digits := cs.take n
  let code := ofDigits 16 digits
  if digits.length = n ∧ digits.all isHexDigit ∧ code.isValidChar then
    some (Char.ofNat code, cs.drop n)
  else none

/-- The character that an escape stands for, after its backslash. -/
def readEscape : List Char → Option (Char × List Char)
  | 'b' :: rest => some ('\x08', rest)
  | 't' :: rest => some ('\t', rest)
  | 'n' :: rest => some ('\n', rest)
  | 'f' :: rest => some ('\x0c', rest)
  | 'r' :: rest => some ('\x0d', rest)
  | '"' :: rest => some ('"', rest)
  | '\\' :: rest => some ('\\', rest)
  | 'u' :: rest => readCode 4 rest
  | 'U' :: rest => readCode 8 rest
  | _ => none

/-- The characters of a string in double quotes, up to the closing one. The fuel is the number of
characters that remain. -/
def readBasic : Nat → List Char → Option (List Char × List Char)
  | 0, _ => none
  | _, [] => none
  | fuel + 1, c :: rest =>
    if c = '"' then some ([], rest)
    else if c = '\\' then do
      let (e, rest) ← readEscape rest
      let (cs, rest) ← readBasic fuel rest
      return (e :: cs, rest)
    else if isPlain c then do
      let (cs, rest) ← readBasic fuel rest
      return (c :: cs, rest)
    else none

/-- The characters of a string in single quotes, up to the closing one. -/
def readLiteral : List Char → Option (List Char × List Char)
  | [] => none
  | c :: rest =>
    if c = '\'' then some ([], rest)
    else if isPlain c then do
      let (cs, rest) ← readLiteral rest
      return (c :: cs, rest)
    else none

/-- What remains after the line end that may follow an opening mark. -/
def skipFirstNewline (cs : List Char) : List Char :=
  (newline? cs).getD cs

/-- What remains after blanks and line ends. -/
def skipLines : List Char → List Char
  | '\n' :: rest => skipLines rest
  | '\x0d' :: '\n' :: rest => skipLines rest
  | c :: rest => if isBlank c then skipLines rest else c :: rest
  | [] => []

/-- Whether a backslash ends a line, and what remains after the blanks and lines it takes away. -/
def lineContinuation? (cs : List Char) : Option (List Char) :=
  (newline? (skipBlanks cs)).map skipLines

/-- Three or more quotes in a row close a string over several lines. Up to two of them belong to the
string, and the last three are the mark. -/
def closing? (quote : Char) (cs : List Char) : Option (List Char × List Char) :=
  let run := (cs.takeWhile (· == quote)).length
  if 3 ≤ run then
    let kept := min (run - 3) 2
    some (List.replicate kept quote, cs.drop (kept + 3))
  else none

/-- The characters of a string over several lines in double quotes, up to its closing mark. The fuel
is the number of characters that remain. -/
def readLongBasic : Nat → List Char → Option (List Char × List Char)
  | 0, _ => none
  | fuel + 1, cs =>
    match closing? '"' cs, newline? cs, cs with
    | some (kept, rest), _, _ => some (kept, rest)
    | none, some rest, _ => do
      let (more, rest) ← readLongBasic fuel rest
      return ('\n' :: more, rest)
    | none, none, c :: rest =>
      if c = '\\' then
        match lineContinuation? rest with
        | some rest => readLongBasic fuel rest
        | none => do
          let (e, rest) ← readEscape rest
          let (more, rest) ← readLongBasic fuel rest
          return (e :: more, rest)
      else if isPlain c then do
        let (more, rest) ← readLongBasic fuel rest
        return (c :: more, rest)
      else none
    | none, none, [] => none

/-- The characters of a string over several lines in single quotes, up to its closing mark. The fuel
is the number of characters that remain. -/
def readLongLiteral : Nat → List Char → Option (List Char × List Char)
  | 0, _ => none
  | fuel + 1, cs =>
    match closing? '\'' cs, newline? cs, cs with
    | some (kept, rest), _, _ => some (kept, rest)
    | none, some rest, _ => do
      let (more, rest) ← readLongLiteral fuel rest
      return ('\n' :: more, rest)
    | none, none, c :: rest =>
      if isPlain c then do
        let (more, rest) ← readLongLiteral fuel rest
        return (c :: more, rest)
      else none
    | none, none, [] => none

/-- A string in any of the four notations. -/
def readString (cs : List Char) : Option (String × List Char) :=
  let asText (r : Option (List Char × List Char)) : Option (String × List Char) :=
    r.map fun (cs, rest) => (String.ofList cs, rest)
  match cs with
  | '"' :: '"' :: '"' :: rest => asText (readLongBasic (rest.length + 1) (skipFirstNewline rest))
  | '"' :: rest => asText (readBasic (rest.length + 1) rest)
  | '\'' :: '\'' :: '\'' :: rest =>
    asText (readLongLiteral (rest.length + 1) (skipFirstNewline rest))
  | '\'' :: rest => asText (readLiteral rest)
  | _ => none

end RecipeResolver.Toml
