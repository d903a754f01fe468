/-!
# Decimal numbers

Decimal digits as texts of 64-bit numbers. A number that does not fit is refused and never wraps
around.
-/

namespace RecipeResolver.Text

/-- One or more decimal digits. -/
def isDigits (cs : List Char) : Bool :=
  !cs.isEmpty && cs.all Char.isDigit

/-- The 64-bit number that the digits spell; nothing for other texts and for numbers that do not
fit. Zeros in front are allowed. -/
def word? (cs : List Char) : Option UInt64 :=
  if isDigits cs && Nat.ofDigitChars 10 cs 0 < UInt64.size then
    some (UInt64.ofNat (Nat.ofDigitChars 10 cs 0))
  else none

/-- The 64-bit number of a canonical text: no zero in front unless it is the only digit. -/
def canonicalWord? (cs : List Char) : Option UInt64 :=
  if cs.head? = some '0' && cs.length ≠ 1 then none else word? cs

/-- The 64-bit number of a text that may begin with one plus sign. -/
def signedWord? : List Char → Option UInt64
  | '+' :: digits => word? digits
  | digits => word? digits

/-! ## Laws -/

theorem isDigits_toDigits (n : Nat) : isDigits (Nat.toDigits 10 n) = true := by
  unfold isDigits
  rw [Bool.and_eq_true, Bool.not_eq_true', List.isEmpty_eq_false_iff, List.all_eq_true]
  exact ⟨Nat.toDigits_ne_nil, fun c hc => Nat.isDigit_of_mem_toDigits (by omega) (by omega) hc⟩

/-- The decimal digits of a number begin with a zero only if it is zero. -/
theorem toDigits_head?_ne_zero {n : Nat} (h : 0 < n) :
    (Nat.toDigits 10 n).head? ≠ some '0' := by
  induction n using Nat.strongRecOn with
  | ind n ih =>
    by_cases hlt : n < 10
    · rw [Nat.toDigits_of_lt_base hlt, List.head?_cons]
      intro hzero
      have := Nat.digitChar_eq_zero.1 (Option.some.inj hzero)
      omega
    · -- the last digit comes off the end, so the first one is that of a tenth
      obtain ⟨c, rest, hdigits⟩ : ∃ c rest, Nat.toDigits 10 (n / 10) = c :: rest :=
        List.exists_cons_of_ne_nil Nat.toDigits_ne_nil
      have hfirst := ih (n / 10) (by omega) (by omega)
      rw [hdigits, List.head?_cons] at hfirst
      rw [Nat.toDigits_of_base_le (by omega) (by omega), hdigits, List.cons_append,
        List.head?_cons]
      exact hfirst

/-- A 64-bit number is read back from its decimal digits. -/
theorem canonicalWord?_toDigits (n : UInt64) :
    canonicalWord? (Nat.toDigits 10 n.toNat) = some n := by
  have hvalue : Nat.ofDigitChars 10 (Nat.toDigits 10 n.toNat) 0 = n.toNat :=
    Nat.ofDigitChars_toDigits (by omega) (by omega)
  have hhead : ¬((Nat.toDigits 10 n.toNat).head? = some '0' ∧
      (Nat.toDigits 10 n.toNat).length ≠ 1) := by
    by_cases hzero : n.toNat = 0
    · rw [hzero, Nat.toDigits_zero]
      decide
    · exact fun h => toDigits_head?_ne_zero (Nat.pos_of_ne_zero hzero) h.1
  have hfits : (isDigits (Nat.toDigits 10 n.toNat) && n.toNat < UInt64.size) = true := by
    rw [isDigits_toDigits, Bool.true_and, decide_eq_true_iff]
    exact n.toNat_lt
  unfold canonicalWord? word?
  rw [if_neg (by rw [Bool.and_eq_true, decide_eq_true_iff, decide_eq_true_iff]; exact hhead),
    hvalue, if_pos hfits, UInt64.ofNat_toNat]

/-- A text spells a 64-bit number if it consists of digits and their value is this number. -/
theorem word?_eq_some_iff {cs : List Char} {n : UInt64} : word? cs = some n ↔
    isDigits cs = true ∧ Nat.ofDigitChars 10 cs 0 = n.toNat := by
  unfold word?
  by_cases h : (isDigits cs && Nat.ofDigitChars 10 cs 0 < UInt64.size) = true
  · rw [if_pos h, Option.some.injEq]
    rw [Bool.and_eq_true, decide_eq_true_iff] at h
    constructor
    · rintro rfl
      exact ⟨h.1, (UInt64.toNat_ofNat_of_lt h.2).symm⟩
    · rintro ⟨-, hvalue⟩
      rw [hvalue, UInt64.ofNat_toNat]
  · rw [if_neg h]
    refine iff_of_false (by simp) ?_
    rintro ⟨hdigits, hvalue⟩
    refine h ?_
    rw [hdigits, Bool.true_and, decide_eq_true_iff, hvalue]
    exact n.toNat_lt

/-- A digit is the digit of its value. -/
theorem toDigits_of_isDigit {c : Char} (h : c.isDigit = true) :
    c.toNat - '0'.toNat < 10 ∧ Nat.toDigits 10 (c.toNat - '0'.toNat) = [c] := by
  have hbounds : 48 ≤ c.toNat ∧ c.toNat ≤ 57 := Char.isDigit_iff_toNat.1 h
  have hzero : '0'.toNat = 48 := rfl
  have hlt : c.toNat - '0'.toNat < 10 := by omega
  refine ⟨hlt, ?_⟩
  have hchar : Nat.digitChar (c.toNat - '0'.toNat) = c := by
    rw [← Char.toNat_inj, Nat.toNat_digitChar_of_lt_ten hlt]
    omega
  rw [Nat.toDigits_of_lt_base hlt, hchar]

/-- Digits behind the digits of a number, which is not zero, are the digits of what all spell. -/
theorem toDigits_append {n : Nat} (hn : 0 < n) {cs : List Char} (h : cs.all Char.isDigit = true) :
    Nat.toDigits 10 n ++ cs = Nat.toDigits 10 (Nat.ofDigitChars 10 cs n) := by
  induction cs generalizing n with
  | nil => rw [List.append_nil, Nat.ofDigitChars_nil]
  | cons c cs ih =>
    rw [List.all_cons, Bool.and_eq_true] at h
    obtain ⟨hlt, hdigit⟩ := toDigits_of_isDigit h.1
    calc Nat.toDigits 10 n ++ c :: cs
        = Nat.toDigits 10 n ++ Nat.toDigits 10 (c.toNat - '0'.toNat) ++ cs := by
          rw [hdigit, List.append_assoc, List.singleton_append]
      _ = Nat.toDigits 10 (10 * n + (c.toNat - '0'.toNat)) ++ cs := by
          rw [Nat.toDigits_append_toDigits (by decide) hn hlt]
      _ = Nat.toDigits 10 (Nat.ofDigitChars 10 (c :: cs) n) := by
          rw [ih (by omega) h.2, Nat.ofDigitChars_cons]

/-- A canonical text is the decimal digits of the number that it spells. -/
theorem canonicalWord?_eq_some_iff {cs : List Char} {n : UInt64} :
    canonicalWord? cs = some n ↔ cs = Nat.toDigits 10 n.toNat := by
  constructor
  · intro h
    unfold canonicalWord? at h
    by_cases hzeros : (cs.head? = some '0' && cs.length ≠ 1) = true
    · rw [if_pos hzeros] at h
      cases h
    rw [if_neg hzeros] at h
    obtain ⟨hdigits, hvalue⟩ := word?_eq_some_iff.1 h
    unfold isDigits at hdigits
    cases cs with
    | nil => cases hdigits
    | cons c cs =>
      rw [Bool.and_eq_true, List.all_cons, Bool.and_eq_true] at hdigits
      obtain ⟨-, hc, hcs⟩ := hdigits
      obtain ⟨-, hdigit⟩ := toDigits_of_isDigit hc
      rw [← hvalue, Nat.ofDigitChars_cons, Nat.mul_zero, Nat.zero_add]
      by_cases hfirst : 0 < c.toNat - '0'.toNat
      · rw [← toDigits_append hfirst hcs, hdigit, List.singleton_append]
      · -- a zero in front is the only digit
        have hzero : c.toNat - '0'.toNat = 0 := by omega
        rw [hzero] at hdigit ⊢
        obtain rfl : '0' = c := (List.cons.inj hdigit).1
        have hnil : cs = [] := by simpa using hzeros
        rw [hnil]
        rfl
  · rintro rfl
    exact canonicalWord?_toDigits n

end RecipeResolver.Text
