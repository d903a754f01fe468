import RecipeResolver.Digest.Sha256

/-!
# Fingerprints

A fingerprint is the hash of a sequence of texts and truth values. The bytes that are hashed are a
value of their own: a text is followed by a zero byte, a truth value is one byte.
-/

namespace RecipeResolver

/-- The bytes of a text in UTF-8. -/
def utf8 (s : String) : List UInt8 :=
  s.toUTF8.data.toList

/-- What has been fed to the hash so far. -/
structure Fingerprint where
  fed : List UInt8
  deriving DecidableEq, Repr

namespace Fingerprint

/-- Nothing fed yet. -/
def empty : Fingerprint := ⟨[]⟩

/-- The bytes of a text and its terminator. -/
def textBytes (s : String) : List UInt8 :=
  utf8 s ++ [0]

/-- The byte of a truth value. -/
def truthBytes (b : Bool) : List UInt8 :=
  [if b then 1 else 0]

/-- Feeds a text. -/
def addText (f : Fingerprint) (s : String) : Fingerprint :=
  ⟨f.fed ++ textBytes s⟩

/-- Feeds texts one after the other. -/
def addTexts (f : Fingerprint) (items : List String) : Fingerprint :=
  items.foldl addText f

/-- Feeds a truth value. -/
def addTruth (f : Fingerprint) (b : Bool) : Fingerprint :=
  ⟨f.fed ++ truthBytes b⟩

/-! ## What is fed -/

@[simp] theorem fed_empty : empty.fed = [] := rfl

@[simp] theorem fed_addText (f : Fingerprint) (s : String) :
    (f.addText s).fed = f.fed ++ textBytes s := rfl

@[simp] theorem fed_addTruth (f : Fingerprint) (b : Bool) :
    (f.addTruth b).fed = f.fed ++ truthBytes b := rfl

/-- Values that are fed one after the other feed their bytes one after the other. -/
theorem fed_foldl {α : Type} {add : Fingerprint → α → Fingerprint} {bytes : α → List UInt8}
    (h : ∀ f a, (add f a).fed = f.fed ++ bytes a) (f : Fingerprint) (items : List α) :
    (items.foldl add f).fed = f.fed ++ items.flatMap bytes := by
  induction items generalizing f with
  | nil => rw [List.foldl_nil, List.flatMap_nil, List.append_nil]
  | cons a rest ih => rw [List.foldl_cons, ih, h, List.flatMap_cons, List.append_assoc]

@[simp] theorem fed_addTexts (f : Fingerprint) (items : List String) :
    (f.addTexts items).fed = f.fed ++ items.flatMap textBytes :=
  fed_foldl fed_addText f items

/-- The hash of what was fed. -/
def finish (f : Fingerprint) : String :=
  Sha256.hexDigest f.fed

/-- The first sixteen digits of the hash. -/
def finishShort (f : Fingerprint) : String :=
  String.ofList (f.finish.toList.take 16)

end Fingerprint

end RecipeResolver
