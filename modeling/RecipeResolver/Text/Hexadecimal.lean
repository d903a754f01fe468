/-!
# Hexadecimal digits

The values of hexadecimal digits in either case, and the two lower-case digits of a byte, from which
the byte can be read back.
-/

namespace RecipeResolver.Text

/-- The value of a hexadecimal digit in either case. -/
def hexValue? (c : Char) : Option Nat :=
  if '0' ≤ c ∧ c ≤ '9' then some (c.toNat - '0'.toNat)
  else if 'a' ≤ c ∧ c ≤ 'f' then some (c.toNat - 'a'.toNat + 10)
  else if 'A' ≤ c ∧ c ≤ 'F' then some (c.toNat - 'A'.toNat + 10)
  else none

/-- The two digits of a number below 256, in lower case. -/
def hexPair (n : Nat) : List Char :=
  [Nat.digitChar (n / 16), Nat.digitChar (n % 16)]

/-- The digit of a value has that value. -/
theorem hexValue?_digitChar {n : Nat} (h : n < 16) : hexValue? (Nat.digitChar n) = some n := by
  revert n
  decide

/-- The digits are characters of ASCII. -/
theorem ascii_of_mem_hexPair {n : Nat} (h : n < 256) {c : Char} (hc : c ∈ hexPair n) :
    c.val ≤ 127 := by
  have hdigit : ∀ d < 16, (Nat.digitChar d).val ≤ 127 := by decide
  unfold hexPair at hc
  rw [List.mem_cons, List.mem_singleton] at hc
  rcases hc with rfl | rfl
  · exact hdigit _ (by omega)
  · exact hdigit _ (by omega)

/-- The digits of a byte spell it. -/
theorem hexValue?_hexPair {n : Nat} (h : n < 256) :
    (hexPair n).map hexValue? = [some (n / 16), some (n % 16)] := by
  simp only [hexPair, List.map_cons, List.map_nil]
  rw [hexValue?_digitChar (by omega), hexValue?_digitChar (by omega)]

/-- The digits tell bytes apart. -/
theorem hexPair_injective {m n : Nat} (hm : m < 256) (hn : n < 256) (h : hexPair m = hexPair n) :
    m = n := by
  have hvalues := hexValue?_hexPair hm
  rw [h, hexValue?_hexPair hn] at hvalues
  simp only [List.cons.injEq, Option.some.injEq, and_true] at hvalues
  omega

/-- Bytes in hexadecimal determine the bytes. -/
theorem flatMap_hexPair_injective {a b : List UInt8}
    (h : (a.flatMap fun x => hexPair x.toNat) = b.flatMap fun x => hexPair x.toNat) : a = b := by
  induction a generalizing b with
  | nil =>
    cases b with
    | nil => rfl
    | cons y b => cases h
  | cons x a ih =>
    cases b with
    | nil => cases h
    | cons y b =>
      rw [List.flatMap_cons, List.flatMap_cons] at h
      -- two digits stand for one byte on either side
      obtain ⟨hfirst, hrest⟩ := List.append_inj h rfl
      have hxy : x.toNat = y.toNat := hexPair_injective x.toNat_lt y.toNat_lt hfirst
      rw [UInt8.toNat_inj.1 hxy, ih hrest]

end RecipeResolver.Text
