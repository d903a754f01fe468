import RecipeResolver.Version.Basic

/-!
# A version is read back from its written form

The written form is the three numbers, then the pre-release behind a hyphen, then the build metadata
behind a plus sign; a part that is empty has no mark either. The reader cuts at the first plus sign
and then at the first hyphen before it. So what has to be known is that no mark stands in front of
its own part: there is no plus sign in numbers and pre-releases and no hyphen in numbers
(`not_mem_coreChars`, `not_mem_pre`).

The form is the only one: numbers have no zeros in front and nothing is left out, so what is read is
what was written (`parse?_eq_some_iff`).
-/

namespace RecipeResolver.Version

/-! ## The parts of the written form -/

/-- The three numbers with dots between them. -/
def coreChars (v : Version) : List Char :=
  Nat.toDigits 10 v.major.toNat ++
    '.' :: (Nat.toDigits 10 v.minor.toNat ++ '.' :: Nat.toDigits 10 v.patch.toNat)

/-- A part behind its mark; nothing for an empty part. -/
def marked (mark : Char) (part : String) : List Char :=
  if part.isEmpty then [] else mark :: part.toList

theorem toList_text (v : Version) :
    v.text.toList = v.coreChars ++ marked '-' v.pre ++ marked '+' v.build := by
  have hmarked (mark : Char) (part : String) :
      (if part.isEmpty then "" else String.singleton mark ++ part).toList = marked mark part := by
    unfold marked
    split
    · rfl
    · rw [String.toList_append, String.toList_singleton, List.singleton_append]
  have hpre : (if v.pre.isEmpty then "" else "-" ++ v.pre).toList = marked '-' v.pre :=
    hmarked '-' v.pre
  have hbuild : (if v.build.isEmpty then "" else "+" ++ v.build).toList = marked '+' v.build :=
    hmarked '+' v.build
  have hcore : (s!"{v.major.toNat}.{v.minor.toNat}.{v.patch.toNat}").toList = v.coreChars := by
    have hdot : (toString ".").toList = ['.'] := rfl
    unfold coreChars
    simp [hdot]
  unfold text
  rw [String.toList_append, String.toList_append, hcore, hpre, hbuild]

/-! ## Which characters stand where -/

/-- A digit is neither a dot nor one of the marks. -/
theorem not_mem_toDigits {c : Char} (h : c.isDigit = false) (n : Nat) :
    c ∉ Nat.toDigits 10 n := by
  intro hc
  rw [Nat.isDigit_of_mem_toDigits (by omega) (by omega) hc] at h
  cases h

theorem not_mem_coreChars {c : Char} (hdigit : c.isDigit = false) (hdot : c ≠ '.') (v : Version) :
    c ∉ v.coreChars := by
  unfold coreChars
  simp only [List.mem_append, List.mem_cons, not_mem_toDigits hdigit, hdot, or_self,
    not_false_eq_true]

/-- The identifiers of a pre-release or of build metadata and the dots between them are all there is
in it. -/
theorem isIdentifierChar_of_mem {valid : List Char → Bool}
    (hvalid : ∀ piece, valid piece = true → isIdentifier piece = true) {part : String}
    (h : (part.isEmpty || (Text.pieces '.' part.toList).all valid) = true) {c : Char}
    (hc : c ∈ part.toList) (hdot : c ≠ '.') : isIdentifierChar c = true := by
  rw [Bool.or_eq_true] at h
  rcases h with hempty | hpieces
  · rw [String.isEmpty_iff.1 hempty] at hc
    cases hc
  · obtain ⟨piece, hpiece, hmem⟩ := Text.exists_piece_of_mem hc hdot
    have hidentifier := hvalid piece (List.all_eq_true.1 hpieces piece hpiece)
    unfold isIdentifier at hidentifier
    rw [Bool.and_eq_true] at hidentifier
    exact List.all_eq_true.1 hidentifier.2 c hmem

theorem isIdentifier_of_isPreIdentifier (piece : List Char) (h : isPreIdentifier piece = true) :
    isIdentifier piece = true := by
  unfold isPreIdentifier at h
  exact (Bool.and_eq_true_iff.1 h).1

/-- There is no plus sign in a pre-release. -/
theorem not_mem_pre {pre : String} (h : isPreRelease pre = true) : '+' ∉ pre.toList := by
  intro hplus
  have hchar := isIdentifierChar_of_mem isIdentifier_of_isPreIdentifier h hplus (by decide)
  exact absurd hchar (by decide)

theorem not_mem_marked {c mark : Char} {part : String} (hmark : c ≠ mark)
    (hpart : c ∉ part.toList) : c ∉ marked mark part := by
  unfold marked
  split
  · exact List.not_mem_nil
  · rw [List.mem_cons, not_or]
    exact ⟨hmark, hpart⟩

/-! ## Reading the parts -/

/-- A part is cut off at its mark if the mark does not stand before it. -/
theorem suffix?_append_marked {mark : Char} {front : List Char} (h : mark ∉ front)
    (part : String) : suffix? mark (front ++ marked mark part) = some (front, part.toList) := by
  unfold suffix? marked
  by_cases hempty : part.isEmpty
  · rw [if_pos hempty, List.append_nil, Text.cut_eq_none_iff.2 h, String.isEmpty_iff.1 hempty]
    rfl
  · have hne : part.toList ≠ [] := by
      intro hnil
      exact hempty (String.isEmpty_iff.2 (String.toList_eq_nil_iff.1 hnil))
    obtain ⟨c, rest, hpart⟩ := List.exists_cons_of_ne_nil hne
    rw [if_neg hempty, Text.cut_eq_some_iff.2 ⟨rfl, h⟩, hpart]

theorem core?_coreChars (v : Version) : core? v.coreChars = some (v.major, v.minor, v.patch) := by
  have hdot (n : Nat) : '.' ∉ Nat.toDigits 10 n := not_mem_toDigits (by decide) n
  unfold core? coreChars
  rw [Text.pieces_append_cons (hdot _), Text.pieces_append_cons (hdot _),
    Text.pieces_of_not_mem (hdot _)]
  simp only [Text.canonicalWord?_toDigits]
  rfl

/-- A version is what its written form spells. -/
theorem parse?_text (v : Version) : parse? v.text = some v := by
  have hhyphen : '-' ∉ v.coreChars := not_mem_coreChars (by decide) (by decide) v
  -- a hyphen in the build metadata does no harm, as the build metadata is cut off first
  have hplus : '+' ∉ v.coreChars ++ marked '-' v.pre := by
    rw [List.mem_append, not_or]
    have hcore : '+' ∉ v.coreChars := not_mem_coreChars (by decide) (by decide) v
    exact ⟨hcore, not_mem_marked (by decide) (not_mem_pre v.pre_valid)⟩
  unfold parse?
  simp only [toList_text, suffix?_append_marked hplus, suffix?_append_marked hhyphen,
    core?_coreChars, Option.bind_eq_bind, Option.bind_some, String.ofList_toList]
  exact dif_pos ⟨v.pre_valid, v.build_valid⟩

/-! ## What was read is the written form -/

/-- A part that was cut off stood behind its mark. -/
theorem eq_of_suffix? {mark : Char} {cs front part : List Char}
    (h : suffix? mark cs = some (front, part)) : cs = front ++ marked mark (.ofList part) := by
  unfold suffix? at h
  cases hcut : Text.cut mark cs with
  | none =>
    rw [hcut] at h
    cases h
    exact (List.append_nil cs).symm
  | some parts =>
    obtain ⟨before, after⟩ := parts
    obtain ⟨hcs, -⟩ := Text.cut_eq_some_iff.1 hcut
    rw [hcut] at h
    cases after with
    | nil => cases h
    | cons c rest =>
      cases h
      unfold marked
      rw [if_neg (by simp), String.toList_ofList]
      exact hcs

theorem eq_of_core? {cs : List Char} {major minor patch : UInt64}
    (h : core? cs = some (major, minor, patch)) :
    cs = Nat.toDigits 10 major.toNat ++
      '.' :: (Nat.toDigits 10 minor.toNat ++ '.' :: Nat.toDigits 10 patch.toNat) := by
  unfold core? at h
  split at h
  · next a b c hpieces =>
    obtain ⟨major', hmajor, h⟩ := Option.bind_eq_some_iff.1 h
    obtain ⟨minor', hminor, h⟩ := Option.bind_eq_some_iff.1 h
    obtain ⟨patch', hpatch, h⟩ := Option.bind_eq_some_iff.1 h
    cases h
    rw [← Text.intercalate_pieces '.' cs, hpieces, List.intercalate_cons_cons,
      List.intercalate_cons_cons, List.intercalate_singleton,
      Text.canonicalWord?_eq_some_iff.1 hmajor, Text.canonicalWord?_eq_some_iff.1 hminor,
      Text.canonicalWord?_eq_some_iff.1 hpatch]
    simp only [List.append_assoc, List.singleton_append]
  · cases h

/-- A text spells a version in full exactly if it is its written form. -/
theorem parse?_eq_some_iff {s : String} {v : Version} : parse? s = some v ↔ s = v.text := by
  constructor
  · intro h
    unfold parse? at h
    obtain ⟨⟨front, build⟩, hbuild, h⟩ := Option.bind_eq_some_iff.1 h
    obtain ⟨⟨core, pre⟩, hpre, h⟩ := Option.bind_eq_some_iff.1 h
    obtain ⟨⟨major, minor, patch⟩, hcore, h⟩ := Option.bind_eq_some_iff.1 h
    dsimp only at h
    split at h
    · cases h
      rw [← String.toList_inj, toList_text]
      unfold coreChars
      rw [eq_of_suffix? hbuild, eq_of_suffix? hpre, eq_of_core? hcore]
    · cases h
  · rintro rfl
    exact parse?_text v

end RecipeResolver.Version
