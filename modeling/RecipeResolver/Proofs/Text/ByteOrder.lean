import Mathlib.Tactic.SplitIfs
import RecipeResolver.Proofs.Digest.SelfDelimiting

/-!
# The order of bytes

Texts are ordered by the numbers of their characters. Their bytes in UTF-8 are ordered in the same
way (`utf8_lt_iff`): of two characters the one with the smaller number has the smaller code, and
this is decided within the two codes, whatever follows them (`utf8EncodeChar_append_lt`).
-/

namespace RecipeResolver

theorem ofNat_eq_ofNat_iff {m n : Nat} (hm : m < UInt8.size) (hn : n < UInt8.size) :
    UInt8.ofNat m = UInt8.ofNat n ↔ m = n := by
  rw [← UInt8.toNat_inj, UInt8.toNat_ofNat', UInt8.toNat_ofNat', Nat.mod_eq_of_lt hm,
    Nat.mod_eq_of_lt hn]

/-- The codes of two characters tell which of them comes first. -/
theorem utf8EncodeChar_append_lt {c d : Char} (h : c < d) (s t : List UInt8) :
    String.utf8EncodeChar c ++ s < String.utf8EncodeChar d ++ t := by
  have hlt : c.val.toNat < d.val.toNat := h
  have hlast : d.val.toNat < 0x110000 := by
    rcases d.valid with hvalid | hvalid
    · omega
    · exact hvalid.2
  unfold String.utf8EncodeChar
  dsimp only
  generalize c.val.toNat = v at *
  generalize d.val.toNat = w at *
  -- to base 64 the smaller number has the smaller digit where the two first differ
  have hunits : v / 64 < w / 64 ∨ v / 64 = w / 64 ∧ v % 64 < w % 64 := by omega
  have hsecond : v / 4096 < w / 4096 ∨ v / 4096 = w / 4096 ∧ v / 64 % 64 ≤ w / 64 % 64 := by omega
  have hthird : v / 262144 < w / 262144 ∨
      v / 262144 = w / 262144 ∧ v / 4096 % 64 ≤ w / 4096 % 64 := by omega
  have hsize : UInt8.size = 256 := rfl
  have hv : v / 262144 % 8 = v / 262144 := by omega
  have hw : w / 262144 % 8 = w / 262144 := by omega
  -- one case for each pair of lengths; a longer code starts with a greater byte
  split_ifs <;> simp (disch := omega) only [List.cons_append, List.nil_append,
    List.cons_lt_cons_iff, UInt8.ofNat_lt_iff_lt, ofNat_eq_ofNat_iff, hv, hw] <;> omega

theorem flatMap_utf8EncodeChar_lt {cs ds : List Char} (h : cs < ds) :
    cs.flatMap String.utf8EncodeChar < ds.flatMap String.utf8EncodeChar := by
  induction cs generalizing ds with
  | nil =>
    cases ds with
    | nil => cases h
    | cons d ds =>
      rw [List.flatMap_nil, List.flatMap_cons]
      obtain ⟨b, code, hcode⟩ := List.exists_cons_of_ne_nil (String.utf8EncodeChar_ne_nil (c := d))
      rw [hcode]
      exact List.nil_lt_cons _ _
  | cons c cs ih =>
    cases ds with
    | nil => cases h
    | cons d ds =>
      rw [List.flatMap_cons, List.flatMap_cons]
      rcases List.cons_lt_cons_iff.1 h with hlt | ⟨rfl, hrest⟩
      · exact utf8EncodeChar_append_lt hlt _ _
      · exact List.append_left_lt (ih hrest)

/-- The order of texts is the order of their bytes. -/
theorem utf8_lt_iff {s t : String} : utf8 s < utf8 t ↔ s < t := by
  have hmono {s t : String} (h : s < t) : utf8 s < utf8 t := by
    rw [utf8_eq_flatMap, utf8_eq_flatMap]
    exact flatMap_utf8EncodeChar_lt (String.lt_iff.1 h)
  refine ⟨fun h => ?_, hmono⟩
  rcases Std.lt_trichotomy s t with hlt | rfl | hgt
  · exact hlt
  · exact absurd h (List.lt_irrefl _)
  · exact absurd (hmono hgt) (List.lt_asymm h)

end RecipeResolver
