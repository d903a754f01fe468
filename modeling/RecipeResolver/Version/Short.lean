import RecipeResolver.Text.Blank
import RecipeResolver.Version.Basic

/-!
# Short versions

Compilers are usually named by one or two numbers, `12` or `11.1`. `Version.ofShort?` reads those
with zeros for what is missing, and every full version as itself. The numbers of a short version may
carry a plus sign and zeros in front; those of a full version may not.
-/

namespace RecipeResolver.Version

/-- The version of one or two numbers divided by a dot. -/
def ofNumbers? (cs : List Char) : Option Version :=
  match Text.pieces '.' cs with
  | [a] => do
    let major ← Text.signedWord? a
    return .release major 0 0
  | [a, b] => do
    let major ← Text.signedWord? a
    let minor ← Text.signedWord? b
    return .release major minor 0
  | _ => none

/-- The version of a full or short text, blanks around it aside. -/
def ofShort? (s : String) : Option Version :=
  let t := Text.trim s
  match parse? t with
  | some v => some v
  | none => ofNumbers? t.toList

end RecipeResolver.Version
