import RecipeResolver.Text.Blank
import RecipeResolver.Text.Cut

/-!
# Language standards

The C++ standards a profile may ask for, from oldest to newest, and the spellings by which
profiles name them: `17`, `c++17`, `gnu17`, `cpp17`.
-/

namespace RecipeResolver

/-- A C++ standard; the constructors are in the order of publication. -/
inductive Standard where
  | cpp98
  | cpp11
  | cpp14
  | cpp17
  | cpp20
  | cpp23
  deriving DecidableEq, Repr

namespace Standard

/-- Every standard, oldest first. -/
def all : List Standard := [.cpp98, .cpp11, .cpp14, .cpp17, .cpp20, .cpp23]

/-- The oldest standard that the library compiles with. -/
def minimum : Standard := .cpp17

/-- The two digits of the year. -/
def digits : Standard → String
  | .cpp98 => "98"
  | .cpp11 => "11"
  | .cpp14 => "14"
  | .cpp17 => "17"
  | .cpp20 => "20"
  | .cpp23 => "23"

/-- The digits tell the standards apart. -/
theorem digits_injective {a b : Standard} (h : a.digits = b.digits) : a = b := by
  cases a <;> cases b <;> first | rfl | exact absurd h (by decide)

/-- The name in messages and plans. -/
def text (s : Standard) : String :=
  "C++" ++ s.digits

/-- The year in full, which orders the standards. -/
def year : Standard → Nat
  | .cpp98 => 1998
  | .cpp11 => 2011
  | .cpp14 => 2014
  | .cpp17 => 2017
  | .cpp20 => 2020
  | .cpp23 => 2023

/-- Whether `a` came out before `b`. -/
def isBefore (a b : Standard) : Bool :=
  a.year < b.year

/-- The standard of exactly these digits. -/
def ofDigits? (digits : String) : Option Standard :=
  all.find? fun s => s.digits == digits

/-- The characters after all leading copies of a nonempty mark. -/
def dropCopies (m : Char) (mark cs : List Char) : List Char :=
  match _found : Text.after? (m :: mark) cs with
  | some rest => dropCopies m mark rest
  | none => cs
  termination_by cs.length
  decreasing_by
    rw [Text.after?_eq_some_iff.1 _found]
    simp only [List.cons_append, List.length_cons, List.length_append]
    omega

/-- The standard that a profile names: any number of `c++`, then of `gnu`, then of `cpp`, then the
digits. Blanks around the whole are ignored. -/
def parse? (s : String) : Option Standard :=
  let cs := (Text.trim s).toList
  let cs := dropCopies 'c' ['+', '+'] cs
  let cs := dropCopies 'g' ['n', 'u'] cs
  ofDigits? (String.ofList (dropCopies 'c' ['p', 'p'] cs))

end Standard

/-- A text that was to name a standard and names none, as it was given. -/
structure StandardError where
  given : String
  deriving DecidableEq, Repr

/-- The error in words. -/
def StandardError.message (e : StandardError) : String :=
  s!"invalid C++ standard '{e.given}', valid values: 98, 11, 14, 17, 20, 23"

namespace Standard

/-- `parse?` with an error for a text that names no standard. -/
def read (s : String) : Except StandardError Standard :=
  match parse? s with
  | some standard => .ok standard
  | none => .error ⟨s⟩

/-- Why a text is no standard; it is shown as it was given. -/
def refusal (s : String) : String :=
  StandardError.message ⟨s⟩

end Standard

end RecipeResolver
