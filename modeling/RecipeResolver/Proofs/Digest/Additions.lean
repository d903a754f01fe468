import RecipeResolver.Proofs.Digest.SelfDelimiting
import RecipeResolver.Proofs.Digest.Streaming

/-!
# What a run of additions feeds

A fingerprint is built by additions: a text, a list of texts, or a truth value. What each of them
feeds is known (`Addition.parts`), so the hash at the end is the hash of all parts put together, and
it makes no difference whether texts are added one by one or as a list.

Two runs can feed the same bytes although they differ, because a truth value is one byte, which may
be the byte that ends a text or a character of one. Between runs that add values of the same kinds
in the same order there is no such confusion: knowing the kind, each value is read off the front of
the bytes (`Addition.eq_of_bytes_append`), and then the next one.
-/

namespace RecipeResolver

namespace Fingerprint

/-- What is added to a fingerprint at once. -/
inductive Addition where
  | text (s : String)
  | texts (items : List String)
  | truth (b : Bool)
  deriving DecidableEq, Repr

namespace Addition

/-- The kinds of additions. -/
inductive Kind where
  | text
  | texts
  | truth
  deriving DecidableEq, Repr

def kind : Addition → Kind
  | .text _ => .text
  | .texts _ => .texts
  | .truth _ => .truth

/-- The fingerprint with this added. -/
def addTo (f : Fingerprint) : Addition → Fingerprint
  | .text s => f.addText s
  | .texts items => f.addTexts items
  | .truth b => f.addTruth b

/-- The byte strings that are handed to the hash, in order. -/
def parts : Addition → List (List UInt8)
  | .text s => [utf8 s, [0]]
  | .texts items => items.flatMap fun s => [utf8 s, [0]]
  | .truth b => [[if b then 1 else 0]]

/-- The same with texts one by one. -/
def oneByOne : Addition → List Addition
  | .text s => [.text s]
  | .texts items => items.map .text
  | .truth b => [.truth b]

end Addition

/-- The fingerprint with all of these added in turn. -/
def addAll (f : Fingerprint) (additions : List Addition) : Fingerprint :=
  additions.foldl Addition.addTo f

/-! ## What is fed -/

namespace Addition

/-- The bytes of an addition. -/
def bytes (a : Addition) : List UInt8 :=
  a.parts.flatten

theorem bytes_text (s : String) : (text s).bytes = textBytes s := by
  unfold bytes parts textBytes
  rw [List.flatten_cons, List.flatten_cons, List.flatten_nil, List.append_nil]

theorem bytes_texts (items : List String) : (texts items).bytes = items.flatMap textBytes := by
  have hitem (s : String) : [utf8 s, [0]].flatten = textBytes s := bytes_text s
  unfold bytes parts
  rw [← List.flatMap_id, List.flatMap_assoc]
  simp only [List.flatMap_id, hitem]

theorem bytes_truth (b : Bool) : (truth b).bytes = truthBytes b := rfl

theorem fed_addTo (f : Fingerprint) (a : Addition) : (a.addTo f).fed = f.fed ++ a.bytes := by
  cases a with
  | text s => rw [bytes_text, addTo, fed_addText]
  | texts items => rw [bytes_texts, addTo, fed_addTexts]
  | truth b => rw [bytes_truth, addTo, fed_addTruth]

/-- A list of texts feeds what its texts feed one after the other. -/
theorem flatMap_bytes_oneByOne (a : Addition) : a.oneByOne.flatMap bytes = a.bytes := by
  cases a with
  | text s => rw [oneByOne, List.flatMap_singleton]
  | texts items =>
    rw [oneByOne, bytes_texts, List.flatMap_map]
    simp only [bytes_text]
  | truth b => rw [oneByOne, List.flatMap_singleton]

end Addition

theorem fed_addAll (f : Fingerprint) (additions : List Addition) :
    (f.addAll additions).fed = f.fed ++ additions.flatMap Addition.bytes :=
  fed_foldl Addition.fed_addTo f additions

theorem flatten_parts (additions : List Addition) :
    (additions.flatMap Addition.parts).flatten = additions.flatMap Addition.bytes := by
  have hbytes : Addition.bytes = fun a => a.parts.flatten := rfl
  rw [hbytes, ← List.flatMap_id, List.flatMap_assoc]
  simp only [List.flatMap_id]

/-- The hash at the end is that of everything fed. -/
theorem finish_addAll (additions : List Addition) : (empty.addAll additions).finish =
    Sha256.hexDigest (additions.flatMap Addition.parts).flatten := by
  unfold finish
  rw [fed_addAll, fed_empty, List.nil_append, flatten_parts]

/-! ## Values of the same kinds -/

namespace Addition

/-- A single value; if it is a text, there is no NUL in it. -/
def SingleNulFree : Addition → Prop
  | .text s => NulFree s
  | .texts _ => False
  | .truth _ => True

instance : DecidablePred SingleNulFree
  | .text s => inferInstanceAs (Decidable (NulFree s))
  | .texts _ => inferInstanceAs (Decidable False)
  | .truth _ => inferInstanceAs (Decidable True)

/-- A value of a known kind is read off the front of the bytes. -/
theorem eq_of_bytes_append {a b : Addition} (ha : a.SingleNulFree) (hb : b.SingleNulFree)
    (hkind : a.kind = b.kind) {s t : List UInt8} (h : a.bytes ++ s = b.bytes ++ t) :
    a = b ∧ s = t := by
  cases a with
  | text s' =>
    cases b with
    | text t' =>
      rw [bytes_text, bytes_text] at h
      obtain ⟨rfl, hrest⟩ := selfDelimiting_textBytes ha hb h
      exact ⟨rfl, hrest⟩
    | texts _ => cases hkind
    | truth _ => cases hkind
  | texts _ => exact absurd ha id
  | truth a' =>
    cases b with
    | text _ => cases hkind
    | texts _ => cases hkind
    | truth b' =>
      rw [bytes_truth, bytes_truth] at h
      obtain ⟨rfl, hrest⟩ := selfDelimiting_truthBytes trivial trivial h
      exact ⟨rfl, hrest⟩

/-- Values of known kinds are read off one after the other. -/
theorem eq_of_flatMap_bytes {as bs : List Addition} (has : ∀ a ∈ as, a.SingleNulFree)
    (hbs : ∀ b ∈ bs, b.SingleNulFree) (hkinds : as.map kind = bs.map kind)
    (h : as.flatMap bytes = bs.flatMap bytes) : as = bs := by
  induction as generalizing bs with
  | nil => exact (List.map_eq_nil_iff.1 hkinds.symm).symm
  | cons a as ih =>
    cases bs with
    | nil => cases hkinds
    | cons b bs =>
      obtain ⟨hkind, hkinds'⟩ := List.cons.inj hkinds
      obtain ⟨ha, has'⟩ := List.forall_mem_cons.1 has
      obtain ⟨hb, hbs'⟩ := List.forall_mem_cons.1 hbs
      rw [List.flatMap_cons, List.flatMap_cons] at h
      obtain ⟨rfl, hrest⟩ := eq_of_bytes_append ha hb hkind h
      rw [ih has' hbs' hkinds' hrest]

-- without the kinds they are not told apart: `false` and the empty text are the same byte
example : (truth false).bytes = (text "").bytes := by rfl

end Addition

/-! ## The short form -/

/-- A hash is written in ASCII. -/
theorem ascii_finish (f : Fingerprint) : ∀ c ∈ f.finish.toList, c.val ≤ 127 := by
  intro c hc
  unfold finish Sha256.hexDigest at hc
  rw [String.toList_ofList, List.mem_flatMap] at hc
  obtain ⟨b, -, hc⟩ := hc
  exact Text.ascii_of_mem_hexPair b.toNat_lt hc

/-- The short form is cut off between two characters, and there are enough of them. -/
theorem utf8_finishShort (f : Fingerprint) :
    16 ≤ (utf8 f.finish).length ∧ (utf8 f.finish).take 16 = utf8 f.finishShort := by
  have hlength : f.finish.toList.length = 64 := Sha256.length_hexDigest f.fed
  have hcut : f.finish = f.finishShort ++ String.ofList (f.finish.toList.drop 16) := by
    rw [finishShort, ← String.ofList_append, List.take_append_drop, String.ofList_toList]
  have hshort : (utf8 f.finishShort).length = 16 := by
    rw [length_utf8_of_ascii, finishShort, String.toList_ofList, List.length_take, hlength]
    · rfl
    · intro c hc
      rw [finishShort, String.toList_ofList] at hc
      exact ascii_finish f c (List.mem_of_mem_take hc)
  constructor
  · rw [length_utf8_of_ascii (ascii_finish f), hlength]
    decide
  · rw [hcut, utf8_append, List.take_left' hshort]

/-- Lists of texts without NUL feed different bytes if they are different, and so do runs that add
single values of the same kinds in the same order, where no text has a NUL. The hash at the end of a
run is the hash of all the parts put together, and any way to compute it from one part after the
other gives the same, so it does not count whether texts are added one by one or as a list. The
short form is the first sixteen of its characters, which take up its first sixteen bytes. -/
theorem additions_are_told_apart :
    (∀ (f : Fingerprint) (as bs : List String), (∀ s ∈ as, NulFree s) → (∀ s ∈ bs, NulFree s) →
      (f.addTexts as).fed = (f.addTexts bs).fed → as = bs) ∧
    (∀ (f : Fingerprint) (as bs : List Addition), (∀ a ∈ as, a.SingleNulFree) →
      (∀ b ∈ bs, b.SingleNulFree) → as.map Addition.kind = bs.map Addition.kind →
        (f.addAll as).fed = (f.addAll bs).fed → as = bs) ∧
    (∀ as : List Addition,
      (empty.addAll as).finish = Sha256.hexDigest (as.flatMap Addition.parts).flatten ∧
      (∀ hasher : Incremental Sha256.hexDigest, hasher.finalize
        ((as.flatMap Addition.parts).foldl hasher.update hasher.start) = (empty.addAll as).finish) ∧
      (empty.addAll (as.flatMap Addition.oneByOne)).finish = (empty.addAll as).finish) ∧
    ∀ f : Fingerprint, f.finishShort.toList = f.finish.toList.take 16 ∧
      16 ≤ (utf8 f.finish).length ∧ (utf8 f.finish).take 16 = utf8 f.finishShort := by
  refine ⟨fun f as bs has hbs h => ?_, fun f as bs has hbs hkinds h => ?_,
    fun as => ⟨finish_addAll as, fun hasher => ?_, ?_⟩, fun f => ⟨?_, utf8_finishShort f⟩⟩
  · rw [fed_addTexts, fed_addTexts] at h
    exact texts_injective has hbs (List.append_cancel_left h)
  · rw [fed_addAll, fed_addAll] at h
    exact Addition.eq_of_flatMap_bytes has hbs hkinds (List.append_cancel_left h)
  · rw [hasher.finalize_foldl, finish_addAll]
  · rw [finish_addAll, finish_addAll, flatten_parts, flatten_parts, List.flatMap_assoc]
    simp only [Addition.flatMap_bytes_oneByOne]
  · exact String.toList_ofList

/-- The byte of `false` is the one that ends a text, but it is not taken for an end. A stream that
works block by block is one way to compute the hash. -/
theorem additions_are_told_apart_around_empty_text :
    let as : List Addition := [.text "fmt/9.0.0", .truth false, .text "", .truth true]
    let bs : List Addition := [.text "fmt/9.0.0", .truth true, .text "", .truth false]
    (empty.addAll as).fed ≠ (empty.addAll bs).fed ∧
      ((as.flatMap Addition.parts).foldl Sha256.Stream.update Sha256.Stream.start).finalize =
        (empty.addAll as).finish := by
  intro as bs
  obtain ⟨-, hvalues, hfinish, -⟩ := additions_are_told_apart
  refine ⟨fun h => ?_, (hfinish as).2.1 Sha256.Stream.incremental⟩
  exact absurd (hvalues empty as bs (by decide) (by decide) rfl h) (by decide)

end Fingerprint

end RecipeResolver
