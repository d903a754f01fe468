import RecipeResolver.Digest.Fingerprint

/-!
# Reading back what was fed

A text is fed with a zero byte behind it. As long as no text holds a zero byte itself, its end can
be found again: `SelfDelimiting` says that bytes which begin with the code of a value determine this
value and what follows. Texts have such a code, truth values have one, and so have lists of a known
length of whatever has one (`SelfDelimiting.flatMap_of_length`).

Two cuts at a byte are used throughout: at its first occurrence, for texts that do not hold it, and
at its last one, where nothing is known about what stands in front.
-/

namespace RecipeResolver

/-! ## Cutting at a byte -/

section Cutting

variable {α : Type} {c : α} {a b s t : List α}

/-- The first occurrence of a value cuts a list in one way. -/
theorem append_cons_inj_of_first (ha : c ∉ a) (hb : c ∉ b) (h : a ++ c :: s = b ++ c :: t) :
    a = b ∧ s = t := by
  rcases List.append_eq_append_iff.1 h with ⟨m, rfl, hm⟩ | ⟨m, rfl, hm⟩
  · cases m with
    | nil => simpa using hm
    | cons x m =>
      rw [List.cons_append, List.cons.injEq] at hm
      exact absurd (by simp [hm.1]) hb
  · cases m with
    | nil => simpa [eq_comm] using hm
    | cons x m =>
      rw [List.cons_append, List.cons.injEq] at hm
      exact absurd (by simp [hm.1]) ha

/-- The last occurrence of a value cuts a list in one way. -/
theorem append_cons_inj_of_last (hs : c ∉ s) (ht : c ∉ t) (h : a ++ c :: s = b ++ c :: t) :
    a = b ∧ s = t := by
  -- read backwards, it is the first occurrence
  have hreverse : s.reverse ++ c :: a.reverse = t.reverse ++ c :: b.reverse := by
    simpa using congrArg List.reverse h
  obtain ⟨hst, hab⟩ := append_cons_inj_of_first (fun hc => hs (List.mem_reverse.1 hc))
    (fun hc => ht (List.mem_reverse.1 hc)) hreverse
  exact ⟨List.reverse_inj.1 hab, List.reverse_inj.1 hst⟩

end Cutting

/-! ## Texts in UTF-8 -/

/-- The bytes of a text determine it. -/
theorem utf8_injective {s t : String} (h : utf8 s = utf8 t) : s = t :=
  String.toByteArray_inj.1 (ByteArray.ext (Array.toList_inj.1 h))

theorem utf8_eq_flatMap (s : String) : utf8 s = s.toList.flatMap String.utf8EncodeChar := by
  conv => lhs; rw [← String.ofList_toList (s := s)]
  show (String.ofList s.toList).toByteArray.data.toList = _
  rw [String.toByteArray_ofList, List.utf8Encode, List.toList_data_toByteArray]

theorem utf8_append (s t : String) : utf8 (s ++ t) = utf8 s ++ utf8 t := by
  rw [utf8_eq_flatMap, utf8_eq_flatMap, utf8_eq_flatMap, String.toList_append,
    List.flatMap_append]

/-- A text of ASCII has one byte for each character. -/
theorem length_utf8_of_ascii {s : String} (h : ∀ c ∈ s.toList, c.val ≤ 127) :
    (utf8 s).length = s.toList.length := by
  rw [utf8_eq_flatMap]
  generalize s.toList = cs at h
  induction cs with
  | nil => rfl
  | cons c cs ih =>
    obtain ⟨hc, hcs⟩ := List.forall_mem_cons.1 h
    have hone : (String.utf8EncodeChar c).length = 1 := by
      rw [String.length_utf8EncodeChar, Char.utf8Size_eq_one_iff]
      exact hc
    rw [List.flatMap_cons, List.length_append, hone, ih hcs, List.length_cons, Nat.add_comm]

/-- A text without the character NUL. -/
def NulFree (s : String) : Prop := '\x00' ∉ s.toList

instance (s : String) : Decidable (NulFree s) := inferInstanceAs (Decidable (_ ∉ _))

/-- Only the character NUL has a zero byte in its code. -/
theorem zero_not_mem_utf8EncodeChar {c : Char} (h : c ≠ '\x00') :
    (0 : UInt8) ∉ String.utf8EncodeChar c := by
  have hpos : 0 < c.val.toNat := by
    refine Nat.pos_of_ne_zero fun hzero => h ?_
    exact Char.ext (UInt32.toNat_inj.1 hzero)
  have hbyte {n : Nat} (hn : 0 < n % 256) : (0 : UInt8) ≠ UInt8.ofNat n := by
    intro hzero
    have hzero := congrArg UInt8.toNat hzero
    rw [UInt8.toNat_ofNat'] at hzero
    exact absurd hzero.symm (Nat.ne_of_gt hn)
  -- one byte is the number of the character itself; of several each has its highest bit set
  unfold String.utf8EncodeChar
  dsimp only
  split
  · simp only [List.mem_singleton]
    exact hbyte (by omega)
  split
  · simp only [List.mem_cons, List.not_mem_nil, or_false, not_or]
    exact ⟨hbyte (by omega), hbyte (by omega)⟩
  split
  · simp only [List.mem_cons, List.not_mem_nil, or_false, not_or]
    exact ⟨hbyte (by omega), hbyte (by omega), hbyte (by omega)⟩
  · simp only [List.mem_cons, List.not_mem_nil, or_false, not_or]
    exact ⟨hbyte (by omega), hbyte (by omega), hbyte (by omega), hbyte (by omega)⟩

/-- The bytes of a text without NUL are not zero. -/
theorem zero_not_mem_utf8 {s : String} (h : NulFree s) : (0 : UInt8) ∉ utf8 s := by
  rw [utf8_eq_flatMap, List.mem_flatMap]
  rintro ⟨c, hc, hzero⟩
  refine zero_not_mem_utf8EncodeChar ?_ hzero
  rintro rfl
  exact h hc

/-! ## Codes that can be read back -/

/-- Bytes that begin with the code of a value of this kind determine the value and what follows. -/
def SelfDelimiting {α : Type} (kind : α → Prop) (code : α → List UInt8) : Prop :=
  ∀ ⦃a b : α⦄, kind a → kind b → ∀ ⦃s t : List UInt8⦄, code a ++ s = code b ++ t → a = b ∧ s = t

open Fingerprint

theorem selfDelimiting_textBytes : SelfDelimiting NulFree textBytes := by
  intro a b ha hb s t h
  unfold textBytes at h
  rw [List.append_assoc, List.append_assoc] at h
  obtain ⟨htext, hrest⟩ :=
    append_cons_inj_of_first (zero_not_mem_utf8 ha) (zero_not_mem_utf8 hb) h
  exact ⟨utf8_injective htext, hrest⟩

theorem truthBytes_injective {a b : Bool} (h : truthBytes a = truthBytes b) : a = b := by
  cases a <;> cases b <;> first | rfl | exact absurd h (by decide)

theorem selfDelimiting_truthBytes : SelfDelimiting (fun _ => True) truthBytes := by
  intro a b _ _ s t h
  obtain ⟨hbyte, hrest⟩ := List.append_inj h rfl
  exact ⟨truthBytes_injective hbyte, hrest⟩

namespace SelfDelimiting

variable {α : Type} {kind : α → Prop} {code : α → List UInt8} {as bs : List α} {s t : List UInt8}

/-- Of two lists in front of the same bytes one begins with the other, and what it has more is read
as a part of what follows the other. -/
theorem flatMap_append (hcode : SelfDelimiting kind code) (has : ∀ a ∈ as, kind a)
    (hbs : ∀ b ∈ bs, kind b) (h : as.flatMap code ++ s = bs.flatMap code ++ t) :
    (∃ more, as = bs ++ more ∧ more.flatMap code ++ s = t) ∨
      ∃ more, bs = as ++ more ∧ s = more.flatMap code ++ t := by
  induction as generalizing bs with
  | nil => exact .inr ⟨bs, rfl, h⟩
  | cons a as ih =>
    cases bs with
    | nil => exact .inl ⟨a :: as, rfl, h⟩
    | cons b bs =>
      rw [List.flatMap_cons, List.flatMap_cons, List.append_assoc, List.append_assoc] at h
      obtain ⟨rfl, hrest⟩ := hcode (has a List.mem_cons_self) (hbs b List.mem_cons_self) h
      rcases ih (fun x hx => has x (List.mem_cons_of_mem a hx))
        (fun x hx => hbs x (List.mem_cons_of_mem a hx)) hrest with
        ⟨more, rfl, hmore⟩ | ⟨more, rfl, hmore⟩
      · exact .inl ⟨more, rfl, hmore⟩
      · exact .inr ⟨more, rfl, hmore⟩

/-- Lists of one length can be read back. -/
theorem flatMap_of_length (hcode : SelfDelimiting kind code) (hlength : as.length = bs.length)
    (has : ∀ a ∈ as, kind a) (hbs : ∀ b ∈ bs, kind b)
    (h : as.flatMap code ++ s = bs.flatMap code ++ t) : as = bs ∧ s = t := by
  rcases hcode.flatMap_append has hbs h with ⟨more, rfl, hmore⟩ | ⟨more, rfl, hmore⟩
  · have hnil : more = [] := by simpa using hlength
    subst hnil
    exact ⟨List.append_nil bs, hmore⟩
  · have hnil : more = [] := by simpa using hlength
    subst hnil
    exact ⟨(List.append_nil as).symm, hmore⟩

/-- Lists of any length can be read back when nothing follows, if no code is empty. -/
theorem flatMap_injective (hcode : SelfDelimiting kind code) (hne : ∀ a, code a ≠ [])
    (has : ∀ a ∈ as, kind a) (hbs : ∀ b ∈ bs, kind b)
    (h : as.flatMap code = bs.flatMap code) : as = bs := by
  have hnil {more : List α} (hmore : more.flatMap code = []) : more = [] := by
    cases more with
    | nil => rfl
    | cons a more =>
      rw [List.flatMap_cons, List.append_eq_nil_iff] at hmore
      exact absurd hmore.1 (hne a)
  rw [← List.append_nil (as.flatMap code), ← List.append_nil (bs.flatMap code)] at h
  rcases hcode.flatMap_append has hbs h with ⟨more, rfl, hmore⟩ | ⟨more, rfl, hmore⟩
  · rw [hnil (List.append_eq_nil_iff.1 hmore).1, List.append_nil]
  · rw [hnil (List.append_eq_nil_iff.1 hmore.symm).1, List.append_nil]

end SelfDelimiting

/-- Texts without NUL can be read back when nothing follows. -/
theorem texts_injective {as bs : List String} (has : ∀ s ∈ as, NulFree s)
    (hbs : ∀ s ∈ bs, NulFree s) (h : as.flatMap textBytes = bs.flatMap textBytes) : as = bs :=
  selfDelimiting_textBytes.flatMap_injective
    (fun _ => List.append_ne_nil_of_right_ne_nil _ (List.cons_ne_nil _ _)) has hbs h

end RecipeResolver
