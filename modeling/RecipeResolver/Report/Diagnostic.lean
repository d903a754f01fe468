/-!
# Diagnostics

What a person is told about a problem: one line that says what is wrong, lines of context, and
numbered suggestions. `Diagnostic.render` writes it, with or without terminal colours.
-/

namespace RecipeResolver

/-- How bad a problem is. -/
inductive Severity where
  | error
  | warning
  deriving DecidableEq, Repr

namespace Severity

/-- The word in front of the message. -/
def word : Severity → String
  | .error => "error"
  | .warning => "warning"

/-- The colour of the word, as a terminal selects it. -/
def colour : Severity → String
  | .error => "1;31"
  | .warning => "1;33"

end Severity

/-- A problem as it is shown. -/
structure Diagnostic where
  severity : Severity
  message : String
  /-- The stable name of the kind of problem. -/
  code : Option String := none
  context : List String := []
  suggestions : List String := []
  deriving DecidableEq, Repr

namespace Diagnostic

/-- An error with this message. -/
def error (message : String) : Diagnostic :=
  { severity := .error, message }

/-- A warning with this message. -/
def warning (message : String) : Diagnostic :=
  { severity := .warning, message }

/-- Adds a line of context. -/
def addContext (d : Diagnostic) (line : String) : Diagnostic :=
  { d with context := d.context ++ [line] }

/-- Adds a suggestion. -/
def suggest (d : Diagnostic) (suggestion : String) : Diagnostic :=
  { d with suggestions := d.suggestions ++ [suggestion] }

/-- Gives the kind of problem its name, and adds the advice that belongs to the kind. -/
def identify (d : Diagnostic) (code : String) (advice : Option String) : Diagnostic :=
  let d := { d with code := some code }
  match advice with
  | some text => d.suggest text
  | none => d

/-! ## Rendering -/

/-- The word between the escapes that switch a colour on and off. -/
def paint (coloured : Bool) (colour word : String) : String :=
  if coloured then "\x1b[" ++ colour ++ "m" ++ word ++ "\x1b[0m" else word

/-- The first line. -/
def headline (d : Diagnostic) (coloured : Bool) : String :=
  paint coloured d.severity.colour d.severity.word ++
    (match d.code with | some code => "[" ++ code ++ "]" | none => "") ++
    ": " ++ d.message ++ "\n"

/-- The suggestions, numbered from `n`. -/
def numbered (n : Nat) : List String → String
  | [] => ""
  | s :: rest => "  " ++ toString n ++ ". " ++ s ++ "\n" ++ numbered (n + 1) rest

/-- The section of suggestions, which is left out if there are none. -/
def help (d : Diagnostic) (coloured : Bool) : String :=
  if d.suggestions.isEmpty then ""
  else "\n" ++ paint coloured "1;32" "help" ++ ": consider:\n" ++ numbered 1 d.suggestions

/-- The whole text. -/
def render (d : Diagnostic) (coloured : Bool) : String :=
  d.headline coloured ++ String.join (d.context.map fun line => "  -> " ++ line ++ "\n") ++
    d.help coloured

/-- The text without colours. -/
def text (d : Diagnostic) : String :=
  d.render false

end Diagnostic

end RecipeResolver
