import RecipeResolver.Proofs.Version.WrittenForm
import RecipeResolver.Version.Short

/-!
# Short versions

A text is first tried as a full version and then as one or two numbers. It does not matter which is
tried first: a full version has two dots before anything else, and one or two numbers have one at
most (`ofNumbers?_text`). So the versions that are read are those of two grammars, one beside the
other (`ofShort?_eq_some_iff`). Numbers are bounded in both of them: whatever stands between the
first dots of a text that is read begins with a number of 64 bits (`leadingNumber_lt`).
-/

namespace RecipeResolver

namespace Text

theorem isDigits_iff {cs : List Char} :
    isDigits cs = true ↔ cs ≠ [] ∧ ∀ c ∈ cs, c.isDigit = true := by
  unfold isDigits
  rw [Bool.and_eq_true, Bool.not_eq_true', List.isEmpty_eq_false_iff, List.all_eq_true]

/-- The first piece ends before the first separator. -/
theorem head?_pieces (sep : Char) (cs : List Char) :
    (pieces sep cs).head? = some (cs.takeWhile (· ≠ sep)) := by
  induction cs with
  | nil => rfl
  | cons c rest ih =>
    by_cases hc : c = sep
    · rw [pieces, if_pos hc, List.takeWhile_cons_of_neg (by simpa using hc)]
      rfl
    · obtain ⟨piece, others, hpieces, hcons⟩ := pieces_cons_of_ne hc rest
      rw [hpieces, List.head?_cons, Option.some.injEq] at ih
      rw [hcons, List.takeWhile_cons_of_pos (by simpa using hc), ih]
      rfl

end Text

namespace Version

/-! ## The grammar -/

/-- A text spells a 64-bit number by digits, which may have zeros in front and one plus sign before
these. -/
def IsNumber (s : String) (n : UInt64) : Prop :=
  ∃ sign digits, s = sign ++ digits ∧ (sign = "" ∨ sign = "+") ∧ digits ≠ "" ∧
    (∀ c ∈ digits.toList, c.isDigit = true) ∧ Nat.ofDigitChars 10 digits.toList 0 = n.toNat

/-- A text is one number or two with a dot between them, and this version has them as its first
numbers and zeros for the others. -/
inductive IsShort : String → Version → Prop
  | major {a : String} {m : UInt64} (ha : IsNumber a m) : IsShort a (.release m 0 0)
  | majorMinor {a b : String} {m n : UInt64} (ha : IsNumber a m) (hb : IsNumber b n) :
      IsShort (a ++ "." ++ b) (.release m n 0)

/-- The number with which a text begins, maybe behind a plus sign; zero if it begins otherwise. -/
def leadingNumber : List Char → Nat
  | '+' :: cs => Nat.ofDigitChars 10 (cs.takeWhile Char.isDigit) 0
  | cs => Nat.ofDigitChars 10 (cs.takeWhile Char.isDigit) 0

/-! ## Numbers -/

theorem signedWord?_eq_some_iff {s : String} {n : UInt64} :
    Text.signedWord? s.toList = some n ↔ IsNumber s n := by
  have hword (digits : List Char) : Text.word? digits = some n ↔ digits ≠ [] ∧
      (∀ c ∈ digits, c.isDigit = true) ∧ Nat.ofDigitChars 10 digits 0 = n.toNat := by
    rw [Text.word?_eq_some_iff, Text.isDigits_iff, and_assoc]
  constructor
  · intro h
    unfold Text.signedWord? at h
    split at h
    · next digits hs =>
      obtain ⟨hne, hdigits⟩ := (hword digits).1 h
      refine ⟨"+", .ofList digits, ?_, .inr rfl, ?_, ?_⟩
      · simp [← String.toList_inj, hs]
      · rwa [Ne, String.ofList_eq_empty_iff]
      · rwa [String.toList_ofList]
    · obtain ⟨hne, hdigits⟩ := (hword s.toList).1 h
      refine ⟨"", s, String.empty_append.symm, .inl rfl, ?_, hdigits⟩
      rwa [Ne, ← String.toList_eq_nil_iff]
  · rintro ⟨sign, digits, rfl, hsign, hne, hdigits⟩
    have hspelled : Text.word? digits.toList = some n :=
      (hword digits.toList).2 ⟨by rwa [Ne, String.toList_eq_nil_iff], hdigits⟩
    rw [String.toList_append]
    rcases hsign with rfl | rfl
    · -- digits do not begin with a plus sign
      show Text.signedWord? digits.toList = some n
      unfold Text.signedWord?
      split
      · next rest hplus =>
        have hdigit := hdigits.1 '+' (by rw [hplus]; exact List.mem_cons_self)
        cases hdigit
      · exact hspelled
    · exact hspelled

/-- A number is read up to the first character that is no digit. -/
theorem takeWhile_isDigit_append {digits rest : List Char} (h : ∀ c ∈ digits, c.isDigit = true)
    (hrest : ∀ c, rest.head? = some c → c.isDigit = false) :
    (digits ++ rest).takeWhile Char.isDigit = digits := by
  have hstops : rest.takeWhile Char.isDigit = [] := by
    cases rest with
    | nil => rfl
    | cons c rest =>
      have hc := hrest c rfl
      rw [List.takeWhile_cons_of_neg (by simp [hc])]
  rw [List.takeWhile_append_of_pos h, hstops, List.append_nil]

theorem leadingNumber_append {digits rest : List Char} (hne : digits ≠ [])
    (h : ∀ c ∈ digits, c.isDigit = true)
    (hrest : ∀ c, rest.head? = some c → c.isDigit = false) :
    leadingNumber (digits ++ rest) = Nat.ofDigitChars 10 digits 0 := by
  obtain ⟨c, others, rfl⟩ := List.exists_cons_of_ne_nil hne
  have hplus : c ≠ '+' := by
    rintro rfl
    have hdigit := h '+' List.mem_cons_self
    cases hdigit
  unfold leadingNumber
  split
  · next heq =>
    exact absurd (List.cons.inj heq).1 hplus
  · rw [takeWhile_isDigit_append h hrest]

namespace IsNumber

variable {s : String} {n : UInt64}

theorem leadingNumber_eq (h : IsNumber s n) : leadingNumber s.toList = n.toNat := by
  obtain ⟨sign, digits, rfl, hsign, hne, hdigits, hvalue⟩ := h
  have hne : digits.toList ≠ [] := by rwa [Ne, String.toList_eq_nil_iff]
  have hnone : ∀ c, ([] : List Char).head? = some c → c.isDigit = false := nofun
  rw [String.toList_append, ← hvalue]
  rcases hsign with rfl | rfl
  · have hplain := leadingNumber_append hne hdigits hnone
    rwa [List.append_nil] at hplain
  · show Nat.ofDigitChars 10 (digits.toList.takeWhile Char.isDigit) 0 = _
    have htaken := takeWhile_isDigit_append hdigits hnone
    rw [List.append_nil] at htaken
    rw [htaken]

/-- There is no dot in a number. -/
theorem dot_not_mem (h : IsNumber s n) : '.' ∉ s.toList := by
  obtain ⟨sign, digits, rfl, hsign, -, hdigits, -⟩ := h
  rw [String.toList_append, List.mem_append, not_or]
  constructor
  · rcases hsign with rfl | rfl
    · decide
    · decide
  · intro hdot
    have hdigit := hdigits '.' hdot
    cases hdigit

end IsNumber

/-! ## One or two numbers -/

theorem pieces_of_numbers {a b : String} {m n : UInt64} (ha : IsNumber a m) (hb : IsNumber b n) :
    Text.pieces '.' (a ++ "." ++ b).toList = [a.toList, b.toList] := by
  have hlist : (a ++ "." ++ b).toList = a.toList ++ '.' :: b.toList := by simp
  rw [hlist, Text.pieces_append_cons ha.dot_not_mem, Text.pieces_of_not_mem hb.dot_not_mem]

theorem ofNumbers?_eq_some_iff {s : String} {v : Version} :
    ofNumbers? s.toList = some v ↔ IsShort s v := by
  constructor
  · intro h
    have hs := Text.intercalate_pieces '.' s.toList
    unfold ofNumbers? at h
    split at h
    · next a hpieces =>
      rw [hpieces, List.intercalate_singleton] at hs
      obtain ⟨m, hm, h⟩ := Option.bind_eq_some_iff.1 h
      cases h
      rw [hs] at hm
      exact .major (signedWord?_eq_some_iff.1 hm)
    · next a b hpieces =>
      rw [hpieces, List.intercalate_cons_cons, List.intercalate_singleton] at hs
      obtain ⟨m, hm, h⟩ := Option.bind_eq_some_iff.1 h
      obtain ⟨n, hn, h⟩ := Option.bind_eq_some_iff.1 h
      cases h
      obtain rfl : s = .ofList a ++ "." ++ .ofList b := by
        rw [← String.toList_inj, ← hs]
        simp
      rw [← String.toList_ofList (l := a)] at hm
      rw [← String.toList_ofList (l := b)] at hn
      exact .majorMinor (signedWord?_eq_some_iff.1 hm) (signedWord?_eq_some_iff.1 hn)
    · cases h
  · intro h
    cases h with
    | major ha =>
      unfold ofNumbers?
      rw [Text.pieces_of_not_mem ha.dot_not_mem]
      dsimp only
      rw [signedWord?_eq_some_iff.2 ha]
      rfl
    | majorMinor ha hb =>
      unfold ofNumbers?
      rw [pieces_of_numbers ha hb]
      dsimp only
      rw [signedWord?_eq_some_iff.2 ha, signedWord?_eq_some_iff.2 hb]
      rfl

/-! ## Full versions beside short ones -/

/-- The first two dots of a full version are those between its numbers. -/
theorem pieces_text (v : Version) : Text.pieces '.' v.text.toList =
    Nat.toDigits 10 v.major.toNat :: Nat.toDigits 10 v.minor.toNat ::
      Text.pieces '.'
        (Nat.toDigits 10 v.patch.toNat ++ (marked '-' v.pre ++ marked '+' v.build)) := by
  have hdot (n : Nat) : '.' ∉ Nat.toDigits 10 n := not_mem_toDigits (by decide) n
  rw [toList_text]
  unfold coreChars
  simp only [List.append_assoc, List.cons_append]
  rw [Text.pieces_append_cons (hdot _), Text.pieces_append_cons (hdot _)]

/-- No full version is one or two numbers. -/
theorem ofNumbers?_text (v : Version) : ofNumbers? v.text.toList = none := by
  obtain ⟨piece, others, hpieces⟩ := List.exists_cons_of_ne_nil (Text.pieces_ne_nil '.'
    (Nat.toDigits 10 v.patch.toNat ++ (marked '-' v.pre ++ marked '+' v.build)))
  unfold ofNumbers?
  rw [pieces_text, hpieces]

theorem not_isShort_text (v w : Version) : ¬ IsShort v.text w := by
  rw [← ofNumbers?_eq_some_iff, ofNumbers?_text]
  exact nofun

theorem ofShort?_eq_or (s : String) :
    ofShort? s = (parse? (Text.trim s)).or (ofNumbers? (Text.trim s).toList) := by
  unfold ofShort?
  dsimp only
  cases parse? (Text.trim s) with
  | none => exact Option.none_or.symm
  | some v => exact Option.some_or.symm

/-- The versions that are read are those that a text spells in full, and those that it spells by one
or two numbers. -/
theorem ofShort?_eq_some_iff {s : String} {v : Version} : ofShort? s = some v ↔
    Text.trim s = v.text ∨ IsShort (Text.trim s) v := by
  rw [ofShort?_eq_or, Option.or_eq_some_iff, parse?_eq_some_iff, ofNumbers?_eq_some_iff]
  refine or_congr_right (and_iff_right_of_imp fun hshort => ?_)
  rw [Option.eq_none_iff_forall_ne_some]
  intro w hfull
  rw [parse?_eq_some_iff.1 hfull] at hshort
  exact not_isShort_text w v hshort

/-! ## Large numbers -/

/-- The value of the digits of a number is the number. -/
theorem leadingNumber_toDigits (n : UInt64) {rest : List Char}
    (hrest : ∀ c, rest.head? = some c → c.isDigit = false) :
    leadingNumber (Nat.toDigits 10 n.toNat ++ rest) = n.toNat := by
  have hdigits := (Text.isDigits_iff.1 (Text.isDigits_toDigits n.toNat)).2
  rw [leadingNumber_append Nat.toDigits_ne_nil hdigits hrest,
    Nat.ofDigitChars_toDigits (by decide) (by decide)]

/-- Behind its numbers a full version does not go on with a digit. -/
theorem isDigit_head?_marked {pre build : String} {c : Char}
    (h : (marked '-' pre ++ marked '+' build).head? = some c) : c.isDigit = false := by
  unfold marked at h
  by_cases hpre : pre.isEmpty
  · by_cases hbuild : build.isEmpty
    · rw [if_pos hpre, if_pos hbuild] at h
      cases h
    · rw [if_pos hpre, if_neg hbuild] at h
      cases h
      rfl
  · rw [if_neg hpre] at h
    cases h
    rfl

/-- What stands between the last of the three numbers and the next dot. -/
theorem head?_pieces_patch (v : Version) : ∃ rest,
    (Text.pieces '.' (Nat.toDigits 10 v.patch.toNat ++
      (marked '-' v.pre ++ marked '+' v.build))).head? =
        some (Nat.toDigits 10 v.patch.toNat ++ rest) ∧
      ∀ c, rest.head? = some c → c.isDigit = false := by
  have hdigits : ∀ c ∈ Nat.toDigits 10 v.patch.toNat, decide (c ≠ '.') = true := by
    intro c hc
    rw [decide_eq_true_iff]
    rintro rfl
    exact not_mem_toDigits (by decide) _ hc
  refine ⟨(marked '-' v.pre ++ marked '+' v.build).takeWhile (· ≠ '.'), ?_, ?_⟩
  · rw [Text.head?_pieces, List.takeWhile_append_of_pos hdigits]
  · intro c hc
    rw [List.head?_takeWhile, Option.filter_eq_some_iff] at hc
    exact isDigit_head?_marked hc.1

/-- The numbers of a version that is read fit in 64 bits. -/
theorem leadingNumber_lt {s : String} {v : Version} (h : ofShort? s = some v) :
    ∀ part ∈ (Text.pieces '.' (Text.trim s).toList).take 3, leadingNumber part < UInt64.size := by
  have hsize {part : List Char} {n : UInt64} (hpart : leadingNumber part = n.toNat) :
      leadingNumber part < UInt64.size := by
    rw [hpart]
    exact n.toNat_lt
  intro part hpart
  rcases ofShort?_eq_some_iff.1 h with hfull | hshort
  · obtain ⟨rest, hhead, hrest⟩ := head?_pieces_patch v
    obtain ⟨others, hpieces⟩ := List.head?_eq_some_iff.1 hhead
    have hnone : ∀ c, ([] : List Char).head? = some c → c.isDigit = false := nofun
    rw [hfull, pieces_text, hpieces, List.take_succ_cons, List.take_succ_cons,
      List.take_succ_cons, List.take_zero] at hpart
    simp only [List.mem_cons, List.not_mem_nil, or_false] at hpart
    rcases hpart with rfl | rfl | rfl
    · exact hsize (List.append_nil _ ▸ leadingNumber_toDigits v.major hnone)
    · exact hsize (List.append_nil _ ▸ leadingNumber_toDigits v.minor hnone)
    · exact hsize (leadingNumber_toDigits v.patch hrest)
  · generalize Text.trim s = t at hpart hshort
    cases hshort with
    | major ha =>
      rw [Text.pieces_of_not_mem ha.dot_not_mem] at hpart
      obtain rfl := List.mem_singleton.1 hpart
      exact hsize ha.leadingNumber_eq
    | majorMinor ha hb =>
      rw [pieces_of_numbers ha hb, List.take_of_length_le (Nat.le_succ 2), List.mem_cons,
        List.mem_singleton] at hpart
      rcases hpart with rfl | rfl
      · exact hsize ha.leadingNumber_eq
      · exact hsize hb.leadingNumber_eq

/-! ## Canonical texts -/

/-- Letters, digits and the hyphen are not blank. -/
theorem isIdentifierChar_of_isBlank {c : Char} (h : Text.isBlank c = true) :
    isIdentifierChar c = false := by
  rw [Bool.eq_false_iff]
  intro hchar
  have hbounds : 45 ≤ c.toNat ∧ c.toNat ≤ 122 := by
    unfold isIdentifierChar at hchar
    rw [Bool.or_eq_true, beq_iff_eq] at hchar
    rcases hchar with halphanum | rfl
    · have hranges : ((65 ≤ c.toNat ∧ c.toNat ≤ 90) ∨ (97 ≤ c.toNat ∧ c.toNat ≤ 122)) ∨
          (48 ≤ c.toNat ∧ c.toNat ≤ 57) := by
        delta Char.isAlphanum Char.isAlpha Char.isUpper Char.isLower Char.isDigit at halphanum
        simpa [UInt32.le_iff_toNat_le] using halphanum
      omega
    · decide
  rw [Text.isBlank_of_graphic (by omega) (by omega)] at h
  cases h

/-- There are no blanks in a full version. -/
theorem isBlank_of_mem_text {v : Version} {c : Char} (hc : c ∈ v.text.toList) :
    Text.isBlank c = false := by
  rw [Bool.eq_false_iff]
  intro hblank
  have hchar : isIdentifierChar c ≠ true := by rw [isIdentifierChar_of_isBlank hblank]; decide
  have hdigit : c.isDigit = false := by
    rw [Bool.eq_false_iff]
    intro hdigit
    refine hchar ?_
    unfold isIdentifierChar Char.isAlphanum
    rw [hdigit, Bool.or_true, Bool.true_or]
  have hne {d : Char} (hd : Text.isBlank d = false) : c ≠ d := by
    rintro rfl
    rw [hd] at hblank
    cases hblank
  have hdot : c ≠ '.' := hne (by decide)
  have hpre : c ∉ v.pre.toList := fun hmem =>
    hchar (isIdentifierChar_of_mem isIdentifier_of_isPreIdentifier v.pre_valid hmem hdot)
  have hbuild : c ∉ v.build.toList := fun hmem =>
    hchar (isIdentifierChar_of_mem (fun _ h => h) v.build_valid hmem hdot)
  rw [toList_text, List.mem_append, List.mem_append] at hc
  rcases hc with (hcore | hmarked) | hmarked
  · exact not_mem_coreChars hdigit hdot v hcore
  · exact not_mem_marked (hne (by decide)) hpre hmarked
  · exact not_mem_marked (hne (by decide)) hbuild hmarked

/-- A full version is read as itself. -/
theorem ofShort?_text (v : Version) : ofShort? v.text = some v := by
  have htrimmed := Text.trimmed_of_not_blank fun c hc => isBlank_of_mem_text (v := v) hc
  rw [ofShort?_eq_some_iff, Text.trim_eq_self htrimmed]
  exact .inl rfl

theorem IsNumber.isBlank_of_mem {s : String} {n : UInt64} (h : IsNumber s n) {c : Char}
    (hc : c ∈ s.toList) : Text.isBlank c = false := by
  obtain ⟨sign, digits, rfl, hsign, -, hdigits, -⟩ := h
  rw [String.toList_append, List.mem_append] at hc
  rcases hc with hc | hc
  · rcases hsign with rfl | rfl
    · cases hc
    · obtain rfl := List.mem_singleton.1 hc
      decide
  · have hbounds : 48 ≤ c.toNat ∧ c.toNat ≤ 57 := Char.isDigit_iff_toNat.1 (hdigits c hc)
    exact Text.isBlank_of_graphic (by omega) (by omega)

/-- One number or two are read with zeros for what is missing. -/
theorem IsShort.ofShort?_eq {s : String} {v : Version} (h : IsShort s v) : ofShort? s = some v := by
  have htrimmed : Text.Trimmed s := by
    refine Text.trimmed_of_not_blank fun c hc => ?_
    cases h with
    | major ha => exact ha.isBlank_of_mem hc
    | majorMinor ha hb =>
      rw [String.toList_append, String.toList_append, List.mem_append, List.mem_append] at hc
      rcases hc with (hc | hc) | hc
      · exact ha.isBlank_of_mem hc
      · obtain rfl := List.mem_singleton.1 hc
        decide
      · exact hb.isBlank_of_mem hc
  rw [ofShort?_eq_some_iff, Text.trim_eq_self htrimmed]
  exact .inr h

/-- The decimal digits of a number. -/
theorem isNumber_toString (n : UInt64) : IsNumber (toString n.toNat) n := by
  have hlist : (toString n.toNat).toList = Nat.toDigits 10 n.toNat := by simp
  refine ⟨"", toString n.toNat, String.empty_append.symm, .inl rfl, ?_, ?_⟩
  · rw [Ne, ← String.toList_eq_nil_iff, hlist]
    exact Nat.toDigits_ne_nil
  · rw [hlist]
    exact ⟨(Text.isDigits_iff.1 (Text.isDigits_toDigits n.toNat)).2,
      Nat.ofDigitChars_toDigits (by decide) (by decide)⟩

theorem text_release (major minor patch : UInt64) : (release major minor patch).text =
    toString major.toNat ++ "." ++ toString minor.toNat ++ "." ++ toString patch.toNat := by
  have hdot : toString "." = "." := rfl
  simp [text, release, hdot]

/-! ## What is read -/

/-- A text is read as a version if, apart from blanks around it, it is a full version or one or two
numbers, and it is never both. Numbers are never wrapped around: a text with too large a number in
any of the first three places is refused. Zeros at the end may be left out, and a version that is
written in full is read back. -/
theorem ofShort?_reads_full_and_short :
    (∀ s v, ofShort? s = some v ↔ parse? (Text.trim s) = some v ∨ IsShort (Text.trim s) v) ∧
    (∀ t v, parse? t = some v ↔ t = v.text) ∧
    (∀ t v w, parse? t = some v → ¬ IsShort t w) ∧
    (∀ s, (∃ part ∈ (Text.pieces '.' (Text.trim s).toList).take 3,
      UInt64.size ≤ leadingNumber part) → ofShort? s = none) ∧
    (∀ m n : UInt64,
      let a := toString m.toNat
      let b := toString n.toNat
      ofShort? a = some (.release m 0 0) ∧
      ofShort? (a ++ ".0") = some (.release m 0 0) ∧
      ofShort? (a ++ ".0.0") = some (.release m 0 0) ∧
      ofShort? (a ++ "." ++ b) = some (.release m n 0) ∧
      ofShort? (a ++ "." ++ b ++ ".0") = some (.release m n 0)) ∧
    (∀ v : Version, ofShort? v.text = some v) := by
  refine ⟨?_, fun t v => parse?_eq_some_iff, ?_, ?_, ?_, ofShort?_text⟩
  · intro s v
    rw [ofShort?_eq_some_iff, parse?_eq_some_iff]
  · intro t v w hfull
    rw [parse?_eq_some_iff.1 hfull]
    exact not_isShort_text v w
  · rintro s ⟨part, hpart, hlarge⟩
    rw [Option.eq_none_iff_forall_ne_some]
    intro v hv
    exact absurd (leadingNumber_lt hv part hpart) (Nat.not_lt.2 hlarge)
  · intro m n
    dsimp only
    have hm := isNumber_toString m
    have hn := isNumber_toString n
    have hzero := isNumber_toString 0
    have hfull (minor : UInt64) := text_release m minor 0 ▸ ofShort?_text (release m minor 0)
    refine ⟨(IsShort.major hm).ofShort?_eq, ?_, ?_, (IsShort.majorMinor hm hn).ofShort?_eq, ?_⟩
    · have hminor := (IsShort.majorMinor hm hzero).ofShort?_eq
      rwa [String.append_assoc] at hminor
    · have htexts := hfull 0
      rwa [String.append_assoc, String.append_assoc, String.append_assoc] at htexts
    · have hpatch := hfull n
      rwa [String.append_assoc] at hpatch

-- a sign and zeros in front belong to short versions only
example : ofShort? " +011.1" = some (.release 11 1 0) ∧ ofShort? "+011.1.0" = none := by decide

end Version

end RecipeResolver
