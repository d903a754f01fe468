import RecipeResolver.Version.Basic

/-!
# The order of versions

A total order: first the three numbers, then the pre-release, where a release is above all its
pre-releases, then the build metadata. Identifiers are compared one by one; a number is below a
word, numbers go by value and words by their characters.
-/

namespace RecipeResolver

namespace Version

/-- Texts by length first and then character by character; on digits without zeros in front this
is the order of the numbers. -/
def compareByLength (a b : List Char) : Ordering :=
  (compare a.length b.length).then (List.compareLex compare a b)

/-- Pre-release identifiers: numbers by value below words by characters. -/
def comparePreIdentifier (a b : List Char) : Ordering :=
  match a.all Char.isDigit, b.all Char.isDigit with
  | true, true => compareByLength a b
  | true, false => .lt
  | false, true => .gt
  | false, false => List.compareLex compare a b

/-- Build identifiers: as in a pre-release, but a number may have zeros in front, and of equal
numbers the one with fewer zeros is the smaller. -/
def compareBuildIdentifier (a b : List Char) : Ordering :=
  match a.all Char.isDigit, b.all Char.isDigit with
  | true, true =>
    (compareByLength (a.dropWhile (· == '0')) (b.dropWhile (· == '0'))).then
      (compare a.length b.length)
  | true, false => .lt
  | false, true => .gt
  | false, false => List.compareLex compare a b

/-- Pre-releases: none is above any, and otherwise identifier by identifier. -/
def comparePre (a b : String) : Ordering :=
  match a.isEmpty, b.isEmpty with
  | true, true => .eq
  | true, false => .gt
  | false, true => .lt
  | false, false =>
    List.compareLex comparePreIdentifier (Text.pieces '.' a.toList) (Text.pieces '.' b.toList)

/-- Build metadata: identifier by identifier. -/
def compareBuild (a b : String) : Ordering :=
  List.compareLex compareBuildIdentifier (Text.pieces '.' a.toList) (Text.pieces '.' b.toList)

/-- The order of versions. -/
def compare (a b : Version) : Ordering :=
  (Ord.compare a.major b.major).then <| (Ord.compare a.minor b.minor).then <|
    (Ord.compare a.patch b.patch).then <| (comparePre a.pre b.pre).then <|
      compareBuild a.build b.build

instance : Ord Version := ⟨Version.compare⟩

/-- Whether `a` is older than `b`. -/
def isOlder (a b : Version) : Bool :=
  a.compare b == .lt

end Version

end RecipeResolver
