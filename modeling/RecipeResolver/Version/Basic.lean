import RecipeResolver.Text.Cut
import RecipeResolver.Text.Decimal

/-!
# Versions

A version is three 64-bit numbers with an optional pre-release and optional build metadata, as
Semantic Versioning 2.0 writes them: `1.2.3-rc.1+build.5`. `Version.parse?` accepts exactly this
grammar and `Version.text` writes it.
-/

namespace RecipeResolver

namespace Version

/-- The characters of an identifier: ASCII letters, digits and the hyphen. -/
def isIdentifierChar (c : Char) : Bool :=
  c.isAlphanum || c == '-'

/-- An identifier of build metadata: not empty. -/
def isIdentifier (cs : List Char) : Bool :=
  !cs.isEmpty && cs.all isIdentifierChar

/-- An identifier of a pre-release: a number has no zero in front. -/
def isPreIdentifier (cs : List Char) : Bool :=
  isIdentifier cs && !(cs.all Char.isDigit && cs.head? == some '0' && cs.length != 1)

/-- The texts that may follow the hyphen, and the empty text for a release. -/
def isPreRelease (s : String) : Bool :=
  s.isEmpty || (Text.pieces '.' s.toList).all isPreIdentifier

/-- The texts that may follow the plus sign, and the empty text for none. -/
def isBuild (s : String) : Bool :=
  s.isEmpty || (Text.pieces '.' s.toList).all isIdentifier

end Version

/-- A version of a compiler or package. -/
structure Version where
  major : UInt64
  minor : UInt64
  patch : UInt64
  /-- The pre-release identifiers joined by dots; empty for a release. -/
  pre : String := ""
  /-- The build identifiers joined by dots; empty for none. -/
  build : String := ""
  pre_valid : Version.isPreRelease pre = true := by decide
  build_valid : Version.isBuild build = true := by decide
  deriving DecidableEq

namespace Version

/-- The release of these numbers. -/
def release (major minor patch : UInt64) : Version := { major, minor, patch }

instance : Inhabited Version := ⟨release 0 0 0⟩

/-- The written form. -/
def text (v : Version) : String :=
  s!"{v.major.toNat}.{v.minor.toNat}.{v.patch.toNat}" ++
    (if v.pre.isEmpty then "" else "-" ++ v.pre) ++
    (if v.build.isEmpty then "" else "+" ++ v.build)

/-- The three numbers of `a.b.c`, each without zeros in front. -/
def core? (cs : List Char) : Option (UInt64 × UInt64 × UInt64) :=
  match Text.pieces '.' cs with
  | [a, b, c] => do
    return (← Text.canonicalWord? a, ← Text.canonicalWord? b, ← Text.canonicalWord? c)
  | _ => none

/-- The part before a separator and the part after it, which is empty if there is no separator;
a separator with nothing after it is refused. -/
def suffix? (sep : Char) (cs : List Char) : Option (List Char × List Char) :=
  match Text.cut sep cs with
  | none => some (cs, [])
  | some (_, []) => none
  | some (before, after) => some (before, after)

/-- The version that a text spells in full. The build metadata begins at the first plus sign and
the pre-release at the first hyphen before it. -/
def parse? (s : String) : Option Version := do
  let (front, build) ← suffix? '+' s.toList
  let (core, pre) ← suffix? '-' front
  let (major, minor, patch) ← core? core
  let pre := String.ofList pre
  let build := String.ofList build
  if h : isPreRelease pre = true ∧ isBuild build = true then
    return { major, minor, patch, pre, build, pre_valid := h.1, build_valid := h.2 }
  else none

end Version

end RecipeResolver
