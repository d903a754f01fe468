import RecipeResolver.Text.CaseTable

/-!
# Lower case

The lower-case form of a text. Most characters map one to one; a capital I with a dot becomes two
characters, and a capital sigma takes its final form at the end of a word.
-/

namespace RecipeResolver.Text

/-- Whether a code point lies in one of the ranges. -/
def inRanges (ranges : List (Nat × Nat)) (n : Nat) : Bool :=
  ranges.any fun (first, last) => first ≤ n && n ≤ last

/-- The lower-case form of one character. -/
def lowerChar (c : Char) : Char :=
  let n := c.toNat
  if n < 0x80 then c.toLower
  else
    match CaseTable.lower.find? fun (first, last, step, _) =>
        first ≤ n && n ≤ last && (n - first) % step == 0 with
    | some (first, _, _, target) => Char.ofNat (target + (n - first))
    | none => c

/-- Whether the nearest character that is not passed over has case. -/
def meetsCase (cs : List Char) : Bool :=
  match cs.dropWhile fun c => inRanges CaseTable.ignorable c.toNat with
  | c :: _ => inRanges CaseTable.cased c.toNat
  | [] => false

/-- The lower-case form of `cs` after the characters `before`, which are given last first. A sigma
ends a word when a letter stands before it and none after it. -/
def lowerAfter (before : List Char) : List Char → List Char
  | [] => []
  | c :: rest =>
    let lowered :=
      if c = 'Σ' then (if meetsCase before && !meetsCase rest then ['ς'] else ['σ'])
      else if c = 'İ' then ['i', '\u0307']
      else [lowerChar c]
    lowered ++ lowerAfter (c :: before) rest

/-- The lower-case form of a text. -/
def lowerCase (s : String) : String :=
  String.ofList (lowerAfter [] s.toList)

end RecipeResolver.Text
