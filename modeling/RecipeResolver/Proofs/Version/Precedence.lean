import Mathlib.Algebra.Ring.Nat
import Mathlib.Data.Char
import Mathlib.Data.List.Lex
import Mathlib.Data.Prod.Lex
import Mathlib.Data.Sum.Order
import Mathlib.Order.Compare
import Mathlib.Order.WithBot
import RecipeResolver.Version.Order

/-!
# The precedence of versions

`Version.compare` works on texts: it compares two numbers by how many digits they have before it
looks at the digits, and sets zeros in front aside. `Version.rank` says what the order is without
these detours. A number counts by its value and is below every word, a release is above all its
pre-releases, and build metadata decides last. `compare_compares` is the agreement of the two.

The rank tells all versions apart (`rank_injective`), so versions are linearly ordered. What is
proved about older and newer versions uses this order and does not open the comparison again.
-/

namespace RecipeResolver.Version

/-! ## Comparisons of pairs and of lists -/

section Compares

variable {α β : Type}

/-- Two comparisons in turn compute the order of pairs. -/
theorem compares_then [LT α] [LT β] {o o' : Ordering} {a a' : α} {b b' : β}
    (h : o.Compares a a') (h' : o'.Compares b b') :
    (o.then o').Compares (toLex (a, b)) (toLex (a', b')) := by
  cases o with
  | lt => exact Prod.Lex.toLex_lt_toLex.2 (.inl h)
  | gt => exact Prod.Lex.toLex_lt_toLex.2 (.inl h)
  | eq =>
    obtain rfl : a = a' := h
    cases o' with
    | lt => exact Prod.Lex.toLex_lt_toLex.2 (.inr ⟨rfl, h'⟩)
    | gt => exact Prod.Lex.toLex_lt_toLex.2 (.inr ⟨rfl, h'⟩)
    | eq =>
      obtain rfl : b = b' := h'
      rfl

/-- A comparison element by element computes the order of lists. -/
theorem compares_compareLex [LinearOrder β] {cmp : α → α → Ordering} {f : α → β} {as bs : List α}
    (h : ∀ a ∈ as, ∀ b ∈ bs, (cmp a b).Compares (f a) (f b)) :
    (List.compareLex cmp as bs).Compares (as.map f) (bs.map f) := by
  induction as generalizing bs with
  | nil =>
    cases bs with
    | nil => rfl
    | cons b bs => exact List.nil_lt_cons (f b) (bs.map f)
  | cons a as ih =>
    cases bs with
    | nil => exact List.nil_lt_cons (f a) (as.map f)
    | cons b bs =>
      have hhead := h a List.mem_cons_self b List.mem_cons_self
      have htail := ih fun x hx y hy =>
        h x (List.mem_cons_of_mem a hx) y (List.mem_cons_of_mem b hy)
      rw [List.compareLex_cons_cons, List.map_cons, List.map_cons]
      cases hcmp : cmp a b with
      | lt => rw [hcmp] at hhead; exact List.Lex.rel hhead
      | gt => rw [hcmp] at hhead; exact List.Lex.rel hhead
      | eq =>
        rw [hcmp] at hhead
        obtain hhead : f a = f b := hhead
        rw [hhead, Ordering.eq_then]
        revert htail
        cases List.compareLex cmp as bs with
        | lt => exact List.Lex.cons
        | gt => exact List.Lex.cons
        | eq => exact congrArg _

theorem compares_compare [LinearOrder α] (a b : α) : (Ord.compare a b).Compares a b :=
  (compare_iff a b).1 rfl

/-- A map that keeps the order keeps what a comparison says. -/
theorem compares_map [Preorder α] [Preorder β] {f : α → β} (hf : ∀ a b, a < b → f a < f b)
    {o : Ordering} {a b : α} (h : o.Compares a b) : o.Compares (f a) (f b) := by
  cases o with
  | lt => exact hf a b h
  | eq => exact congrArg f h
  | gt => exact hf b a h

end Compares

/-! ## Numbers by their digits -/

theorem ofDigitChars_cons_zero (c : Char) (cs : List Char) :
    Nat.ofDigitChars 10 (c :: cs) 0 =
      10 ^ cs.length * (c.toNat - 48) + Nat.ofDigitChars 10 cs 0 := by
  rw [Nat.ofDigitChars_cons, Nat.ofDigitChars_eq_ofDigitChars_zero, Nat.mul_zero, Nat.zero_add]
  rfl

theorem digit_bounds {c : Char} (h : c.isDigit = true) : 48 ≤ c.toNat ∧ c.toNat ≤ 57 :=
  Char.isDigit_iff_toNat.1 h

theorem ofDigitChars_lt {cs : List Char} (h : cs.all Char.isDigit = true) :
    Nat.ofDigitChars 10 cs 0 < 10 ^ cs.length := by
  induction cs with
  | nil => decide
  | cons c cs ih =>
    rw [List.all_cons, Bool.and_eq_true] at h
    have hc := digit_bounds h.1
    have hcs := ih h.2
    have hdigit : 10 ^ cs.length * (c.toNat - 48) ≤ 10 ^ cs.length * 9 :=
      Nat.mul_le_mul_left _ (by omega)
    rw [ofDigitChars_cons_zero, List.length_cons, Nat.pow_succ]
    omega

/-- Without a zero in front a number has the size of its length. -/
theorem le_ofDigitChars {c : Char} (cs : List Char) (h : c.isDigit = true) (hc : c ≠ '0') :
    10 ^ cs.length ≤ Nat.ofDigitChars 10 (c :: cs) 0 := by
  have hbounds := digit_bounds h
  have hne : c.toNat ≠ 48 := fun h => hc (Char.toNat_inj.1 h)
  have hdigit : 10 ^ cs.length * 1 ≤ 10 ^ cs.length * (c.toNat - 48) :=
    Nat.mul_le_mul_left _ (by omega)
  rw [ofDigitChars_cons_zero]
  omega

theorem mul_add_lt_of_lt {m i j x y : Nat} (h : i < j) (hx : x < m) : m * i + x < m * j + y :=
  calc m * i + x < m * (i + 1) := by rw [Nat.mul_succ]; omega
    _ ≤ m * j := Nat.mul_le_mul_left m h
    _ ≤ m * j + y := Nat.le_add_right _ y

/-- Of two texts of digits that are equally long, the order of the characters is that of the
numbers. -/
theorem compares_ofDigitChars {a b : List Char} (ha : a.all Char.isDigit = true)
    (hb : b.all Char.isDigit = true) (hlength : a.length = b.length) :
    (List.compareLex Ord.compare a b).Compares (Nat.ofDigitChars 10 a 0)
      (Nat.ofDigitChars 10 b 0) := by
  induction a generalizing b with
  | nil =>
    obtain rfl := List.length_eq_zero_iff.1 hlength.symm
    rfl
  | cons c a ih =>
    cases b with
    | nil => cases hlength
    | cons d b =>
      rw [List.all_cons, Bool.and_eq_true] at ha hb
      have hlength : a.length = b.length := Nat.succ.inj hlength
      have hc := digit_bounds ha.1
      have hd := digit_bounds hb.1
      have hrest := ih ha.2 hb.2 hlength
      have hra := ofDigitChars_lt ha.2
      have hrb := ofDigitChars_lt hb.2
      have hfirst : (Ord.compare c d).Compares c d := compares_compare c d
      rw [List.compareLex_cons_cons, ofDigitChars_cons_zero, ofDigitChars_cons_zero, hlength]
      rw [hlength] at hra
      cases hcmp : Ord.compare c d with
      -- a greater first digit outweighs whatever follows
      | lt =>
        rw [hcmp] at hfirst
        have hlt : c.toNat < d.toNat := hfirst
        exact mul_add_lt_of_lt (by omega) hra
      | gt =>
        rw [hcmp] at hfirst
        have hlt : d.toNat < c.toNat := hfirst
        exact mul_add_lt_of_lt (by omega) hrb
      | eq =>
        rw [hcmp] at hfirst
        obtain rfl : c = d := hfirst
        rw [Ordering.eq_then]
        exact compares_map (fun x y h => Nat.add_lt_add_left h _) hrest

/-- Texts of digits are compared as numbers if no longer one begins with a zero. -/
theorem compares_compareByLength {a b : List Char} (ha : a.all Char.isDigit = true)
    (hb : b.all Char.isDigit = true) (hab : a.length < b.length → b.head? ≠ some '0')
    (hba : b.length < a.length → a.head? ≠ some '0') :
    (compareByLength a b).Compares (Nat.ofDigitChars 10 a 0) (Nat.ofDigitChars 10 b 0) := by
  have hshorter {a b : List Char} (ha : a.all Char.isDigit = true) (hb : b.all Char.isDigit = true)
      (hlength : a.length < b.length) (hhead : b.head? ≠ some '0') :
      Nat.ofDigitChars 10 a 0 < Nat.ofDigitChars 10 b 0 := by
    cases b with
    | nil => cases hlength
    | cons d b =>
      rw [List.all_cons, Bool.and_eq_true] at hb
      have hd : d ≠ '0' := fun h => hhead (congrArg some h)
      calc Nat.ofDigitChars 10 a 0 < 10 ^ a.length := ofDigitChars_lt ha
        _ ≤ 10 ^ b.length := Nat.pow_le_pow_right (by decide) (Nat.le_of_lt_succ hlength)
        _ ≤ Nat.ofDigitChars 10 (d :: b) 0 := le_ofDigitChars b hb.1 hd
  have hlength : (Ord.compare a.length b.length).Compares a.length b.length :=
    compares_compare _ _
  unfold compareByLength
  cases hcmp : Ord.compare a.length b.length with
  | lt =>
    rw [hcmp] at hlength
    exact hshorter ha hb hlength (hab hlength)
  | gt =>
    rw [hcmp] at hlength
    exact hshorter hb ha hlength (hba hlength)
  | eq =>
    rw [hcmp] at hlength
    exact compares_ofDigitChars ha hb hlength

theorem ofDigitChars_dropWhile (cs : List Char) :
    Nat.ofDigitChars 10 (cs.dropWhile (· == '0')) 0 = Nat.ofDigitChars 10 cs 0 := by
  induction cs with
  | nil => rfl
  | cons c cs ih =>
    by_cases hc : c = '0'
    · subst hc
      rw [List.dropWhile_cons_of_pos (by decide), ih, ofDigitChars_cons_zero]
      simp
    · rw [List.dropWhile_cons_of_neg (by simpa using hc)]

/-! ## Ranks -/

/-- Where identifiers stand: numbers below words, and words by their characters. The numbers go as
`number` says. -/
def identifierRank {ν : Type} (number : List Char → ν) (cs : List Char) : ν ⊕ₗ List Char :=
  if cs.all Char.isDigit then Sum.inlₗ (number cs) else Sum.inrₗ cs

/-- The numbers of a pre-release go by their value. -/
def preIdentifierRank : List Char → ℕ ⊕ₗ List Char :=
  identifierRank fun cs => Nat.ofDigitChars 10 cs 0

/-- The numbers of build metadata go by their value too, and equal ones by how many digits they
have. -/
def buildIdentifierRank : List Char → (ℕ ×ₗ ℕ) ⊕ₗ List Char :=
  identifierRank fun cs => toLex (Nat.ofDigitChars 10 cs 0, cs.length)

/-- Pre-releases identifier by identifier, and above them all the release. -/
def preRank (pre : String) : WithTop (List (ℕ ⊕ₗ List Char)) :=
  if pre.isEmpty then ⊤ else ((Text.pieces '.' pre.toList).map preIdentifierRank : List _)

/-- Build metadata identifier by identifier. -/
def buildRank (build : String) : List ((ℕ ×ₗ ℕ) ⊕ₗ List Char) :=
  (Text.pieces '.' build.toList).map buildIdentifierRank

/-- Where versions stand in their order: by the three numbers, then by the pre-release, then by the
build metadata. -/
abbrev Rank : Type :=
  ℕ ×ₗ ℕ ×ₗ ℕ ×ₗ WithTop (List (ℕ ⊕ₗ List Char)) ×ₗ List ((ℕ ×ₗ ℕ) ⊕ₗ List Char)

/-- The rank of a version. -/
def rank (v : Version) : Rank :=
  toLex (v.major.toNat, toLex (v.minor.toNat, toLex (v.patch.toNat,
    toLex (preRank v.pre, buildRank v.build))))

/-! ## The comparison computes the rank -/

/-- A comparison that puts numbers below words, and compares words by their characters and numbers
in a way that computes their order, computes the order of identifiers. -/
theorem compares_identifierRank {ν : Type} [LinearOrder ν] {number : List Char → ν} {o : Ordering}
    {a b : List Char} (h : a.all Char.isDigit = true → b.all Char.isDigit = true →
      o.Compares (number a) (number b)) :
    (match a.all Char.isDigit, b.all Char.isDigit with
      | true, true => o
      | true, false => .lt
      | false, true => .gt
      | false, false => List.compareLex Ord.compare a b : Ordering).Compares
        (identifierRank number a) (identifierRank number b) := by
  unfold identifierRank
  cases ha : a.all Char.isDigit with
  | true =>
    cases hb : b.all Char.isDigit with
    | true =>
      exact compares_map (f := Sum.inlₗ) (fun _ _ => Sum.Lex.inl_lt_inl_iff.2) (h ha hb)
    | false => exact Sum.Lex.inl_lt_inr _ _
  | false =>
    cases hb : b.all Char.isDigit with
    | true => exact Sum.Lex.inl_lt_inr _ _
    | false =>
      have hwords : (List.compareLex Ord.compare a b).Compares (a.map id) (b.map id) :=
        compares_compareLex fun c _ d _ => compares_compare c d
      rw [List.map_id, List.map_id] at hwords
      exact compares_map (f := Sum.inrₗ) (fun _ _ => Sum.Lex.inr_lt_inr_iff.2) hwords

/-- A number in a pre-release begins with a zero only if it is zero. -/
theorem head?_ne_zero_of_length {a b : List Char} (ha : isPreIdentifier a = true)
    (hb : isPreIdentifier b = true) (hdigits : b.all Char.isDigit = true)
    (hlength : a.length < b.length) : b.head? ≠ some '0' := by
  intro hzero
  simp only [isPreIdentifier, isIdentifier, Bool.and_eq_true, Bool.not_eq_true',
    List.isEmpty_eq_false_iff] at ha
  have hpos := List.length_pos_iff.2 ha.1.1
  simp only [isPreIdentifier, hdigits, hzero, Bool.and_eq_true, Bool.not_eq_true', Bool.true_and,
    beq_self_eq_true, bne_eq_false_iff_eq] at hb
  omega

theorem comparePreIdentifier_compares {a b : List Char} (ha : isPreIdentifier a = true)
    (hb : isPreIdentifier b = true) :
    (comparePreIdentifier a b).Compares (preIdentifierRank a) (preIdentifierRank b) :=
  compares_identifierRank fun hda hdb => compares_compareByLength hda hdb
    (head?_ne_zero_of_length ha hb hdb) (head?_ne_zero_of_length hb ha hda)

theorem compareBuildIdentifier_compares (a b : List Char) :
    (compareBuildIdentifier a b).Compares (buildIdentifierRank a) (buildIdentifierRank b) := by
  have hdigits {cs : List Char} (h : cs.all Char.isDigit = true) :
      (cs.dropWhile (· == '0')).all Char.isDigit = true :=
    List.all_eq_true.2 fun c hc => List.all_eq_true.1 h c ((List.dropWhile_suffix _).subset hc)
  have hhead (cs : List Char) : (cs.dropWhile (· == '0')).head? ≠ some '0' := by
    intro h
    have hfirst := List.head?_dropWhile_not (· == '0') cs
    rw [h] at hfirst
    cases hfirst
  -- without the zeros in front the longer number is the greater one
  refine compares_identifierRank fun hda hdb =>
    compares_then ?_ (compares_compare a.length b.length)
  rw [← ofDigitChars_dropWhile a, ← ofDigitChars_dropWhile b]
  exact compares_compareByLength (hdigits hda) (hdigits hdb) (fun _ => hhead b) (fun _ => hhead a)

theorem isPreIdentifier_of_mem {pre : String} (h : isPreRelease pre = true)
    (hne : pre.isEmpty = false) {piece : List Char} (hpiece : piece ∈ Text.pieces '.' pre.toList) :
    isPreIdentifier piece = true := by
  unfold isPreRelease at h
  rw [hne, Bool.false_or] at h
  exact List.all_eq_true.1 h piece hpiece

theorem comparePre_compares {a b : String} (ha : isPreRelease a = true)
    (hb : isPreRelease b = true) : (comparePre a b).Compares (preRank a) (preRank b) := by
  unfold comparePre preRank
  cases hea : a.isEmpty with
  | true =>
    cases heb : b.isEmpty with
    | true => rfl
    | false => exact WithTop.coe_lt_top _
  | false =>
    cases heb : b.isEmpty with
    | true => exact WithTop.coe_lt_top _
    | false =>
      refine compares_map (f := WithTop.some) (fun _ _ => WithTop.coe_lt_coe.2) ?_
      exact compares_compareLex fun x hx y hy => comparePreIdentifier_compares
        (isPreIdentifier_of_mem ha hea hx) (isPreIdentifier_of_mem hb heb hy)

/-- The comparison of versions computes their order by rank. -/
theorem compare_compares (a b : Version) : (a.compare b).Compares a.rank b.rank := by
  have hword (m n : UInt64) : (Ord.compare m n).Compares m.toNat n.toNat := by
    show (compareOfLessAndEq m n).Compares m.toNat n.toNat
    unfold compareOfLessAndEq
    by_cases hlt : m < n
    · rw [if_pos hlt]
      exact UInt64.lt_iff_toNat_lt.1 hlt
    · rw [if_neg hlt]
      by_cases heq : m = n
      · rw [if_pos heq]
        exact congrArg UInt64.toNat heq
      · rw [if_neg heq]
        have hle := UInt64.not_lt.1 hlt
        exact UInt64.lt_iff_toNat_lt.1 (UInt64.lt_of_le_of_ne hle (Ne.symm heq))
  have hbuild : (compareBuild a.build b.build).Compares (buildRank a.build) (buildRank b.build) :=
    compares_compareLex fun x _ y _ => compareBuildIdentifier_compares x y
  have hpre := comparePre_compares a.pre_valid b.pre_valid
  exact compares_then (hword _ _) (compares_then (hword _ _) (compares_then (hword _ _)
    (compares_then hpre hbuild)))

/-! ## Equal versions -/

/-- If equal numbers are the same text, so are equal identifiers. -/
theorem eq_of_compare_identifiers {o : Ordering} {a b : List Char} (ho : o = .eq → a = b)
    (h : (match a.all Char.isDigit, b.all Char.isDigit with
      | true, true => o
      | true, false => .lt
      | false, true => .gt
      | false, false => List.compareLex Ord.compare a b : Ordering) = .eq) : a = b := by
  cases ha : a.all Char.isDigit <;> cases hb : b.all Char.isDigit <;> rw [ha, hb] at h
  · exact Std.LawfulEqCmp.eq_of_compare (show List.compareLex Ord.compare a b = .eq from h)
  · cases h
  · cases h
  · exact ho h

instance : Std.LawfulEqCmp compareByLength where
  compare_self := Ordering.then_eq_eq.2 ⟨Std.ReflCmp.compare_self, Std.ReflCmp.compare_self⟩
  eq_of_compare h := Std.LawfulEqCmp.eq_of_compare (Ordering.then_eq_eq.1 h).2

instance : Std.LawfulEqCmp comparePreIdentifier where
  compare_self {a} := by
    have hnumber : compareByLength a a = .eq := Std.ReflCmp.compare_self
    have hword : List.compareLex Ord.compare a a = .eq := Std.ReflCmp.compare_self
    unfold comparePreIdentifier
    cases a.all Char.isDigit
    · exact hword
    · exact hnumber
  eq_of_compare := eq_of_compare_identifiers Std.LawfulEqCmp.eq_of_compare

/-- Texts of one length that begin with zeros are known by what follows the zeros. -/
theorem eq_of_dropWhile_eq {a b : List Char}
    (h : a.dropWhile (· == '0') = b.dropWhile (· == '0')) (hlength : a.length = b.length) :
    a = b := by
  have hzeros (cs : List Char) : cs = List.replicate
      (cs.length - (cs.dropWhile (· == '0')).length) '0' ++ cs.dropWhile (· == '0') := by
    have hsplit := List.takeWhile_append_dropWhile (p := (· == '0')) (l := cs)
    have hlength := congrArg List.length hsplit
    rw [List.length_append] at hlength
    have htake : cs.takeWhile (· == '0') =
        List.replicate (cs.length - (cs.dropWhile (· == '0')).length) '0' := by
      refine List.eq_replicate_iff.2 ⟨by omega, fun c hc => ?_⟩
      exact beq_iff_eq.1 (List.all_eq_true.1 List.all_takeWhile c hc)
    rw [← htake, hsplit]
  rw [hzeros a, hzeros b, h, hlength]

instance : Std.LawfulEqCmp compareBuildIdentifier where
  compare_self {a} := by
    have hnumber (cs : List Char) : compareByLength cs cs = .eq := Std.ReflCmp.compare_self
    have hword : List.compareLex Ord.compare a a = .eq := Std.ReflCmp.compare_self
    unfold compareBuildIdentifier
    cases a.all Char.isDigit
    · exact hword
    · exact Ordering.then_eq_eq.2 ⟨hnumber _, Std.ReflCmp.compare_self⟩
  eq_of_compare := eq_of_compare_identifiers fun h => by
    obtain ⟨hvalue, hlength⟩ := Ordering.then_eq_eq.1 h
    exact eq_of_dropWhile_eq (Std.LawfulEqCmp.eq_of_compare hvalue)
      (Std.LawfulEqOrd.eq_of_compare hlength)

/-- Identifiers separated by dots are compared as equal only if the texts are. -/
theorem eq_of_compareLex_pieces {cmp : List Char → List Char → Ordering} [Std.LawfulEqCmp cmp]
    {a b : String}
    (h : List.compareLex cmp (Text.pieces '.' a.toList) (Text.pieces '.' b.toList) = .eq) :
    a = b :=
  String.toList_injective (Text.pieces_injective '.' (Std.LawfulEqCmp.eq_of_compare h))

theorem eq_of_comparePre {a b : String} (h : comparePre a b = .eq) : a = b := by
  unfold comparePre at h
  cases ha : a.isEmpty <;> cases hb : b.isEmpty <;> rw [ha, hb] at h
  · exact eq_of_compareLex_pieces h
  · cases h
  · cases h
  · exact (String.isEmpty_iff.1 ha).trans (String.isEmpty_iff.1 hb).symm

/-- The order tells all versions apart, by their build metadata too. -/
theorem rank_injective : Function.Injective rank := by
  intro a b h
  -- a comparison that says equal is equal part by part, and each part is compared faithfully
  have heq := (compare_compares a b).eq_eq.2 h
  simp only [compare, Ordering.then_eq_eq] at heq
  obtain ⟨hmajor, hminor, hpatch, hpre, hbuild⟩ := heq
  have hmajor := Std.LawfulEqOrd.eq_of_compare hmajor
  have hminor := Std.LawfulEqOrd.eq_of_compare hminor
  have hpatch := Std.LawfulEqOrd.eq_of_compare hpatch
  have hpre := eq_of_comparePre hpre
  have hbuild : a.build = b.build := eq_of_compareLex_pieces hbuild
  cases a
  cases b
  cases hmajor
  cases hminor
  cases hpatch
  cases hpre
  cases hbuild
  rfl

/-- The order of versions is that of their ranks. -/
instance : PartialOrder Version := PartialOrder.lift rank rank_injective

instance : LinearOrder Version where
  le_total a b := le_total a.rank b.rank
  -- decided by the comparison, which does not compute ranks
  toDecidableLE a b := decidable_of_iff (a.compare b ≠ .gt) (compare_compares a b).ne_gt
  toDecidableLT a b := decidable_of_iff (a.compare b = .lt) (compare_compares a b).eq_lt
  toDecidableEq := inferInstance
  compare := compare
  compare_eq_compareOfLessAndEq a b := by
    have h := compare_compares a b
    unfold compareOfLessAndEq
    by_cases hlt : a < b
    · rw [if_pos hlt]
      exact h.eq_lt.2 hlt
    · rw [if_neg hlt]
      by_cases heq : a = b
      · rw [if_pos heq]
        exact h.eq_eq.2 (congrArg rank heq)
      · rw [if_neg heq]
        exact h.eq_gt.2 (lt_of_le_of_ne (not_lt.1 hlt) fun h => heq (rank_injective h.symm))

theorem isOlder_eq_true_iff {a b : Version} : a.isOlder b = true ↔ a < b := by
  unfold isOlder
  rw [beq_iff_eq]
  exact (compare_compares a b).eq_lt

/-- A pre-release is below its release, whatever the build metadata. -/
theorem lt_of_preRelease {a b : Version} (hmajor : a.major = b.major) (hminor : a.minor = b.minor)
    (hpatch : a.patch = b.patch) (ha : a.pre ≠ "") (hb : b.pre = "") : a < b := by
  have hpre : preRank a.pre < preRank b.pre := by
    have hne : ¬ a.pre.isEmpty = true := fun h => ha (String.isEmpty_iff.1 h)
    unfold preRank
    rw [if_neg hne, hb]
    exact WithTop.coe_lt_top _
  show a.rank < b.rank
  unfold rank
  rw [hmajor, hminor, hpatch]
  refine Prod.Lex.toLex_lt_toLex.2 (.inr ⟨rfl, Prod.Lex.toLex_lt_toLex.2 (.inr ⟨rfl, ?_⟩)⟩)
  exact Prod.Lex.toLex_lt_toLex.2 (.inr ⟨rfl, Prod.Lex.toLex_lt_toLex.2 (.inl hpre)⟩)

end RecipeResolver.Version
