import RecipeResolver.Digest.Fingerprint
import RecipeResolver.Files.Tree

/-!
# Sinks

A place that texts are written to and that may fill up. What does not fit is lost, but what fits is
kept to the last byte, even when it is a part of one text.
-/

namespace RecipeResolver

/-- What was written, and how much there is room for if that is limited. -/
structure Sink where
  limit : Option Nat
  held : List UInt8
  deriving DecidableEq, Repr

namespace Sink

/-- A sink that never fills up. -/
def unlimited : Sink := ⟨none, []⟩

/-- A sink that fills up after this many bytes. -/
def upTo (limit : Nat) : Sink := ⟨some limit, []⟩

/-- Writes a text, or as much of it as fits. -/
def write (s : Sink) (text : String) : Sink × Except FileError Unit :=
  match s.limit with
  | none => ({ s with held := s.held ++ utf8 text }, .ok ())
  | some limit =>
    let room := limit - s.held.length
    ({ s with held := s.held ++ (utf8 text).take room },
      if (utf8 text).length ≤ room then .ok () else .error .full)

/-- Writes texts one after the other until one does not fit. -/
def writeAll (s : Sink) : List String → Sink × Except FileError Unit
  | [] => (s, .ok ())
  | text :: rest =>
    match s.write text with
    | (s, .ok ()) => s.writeAll rest
    | (s, .error e) => (s, .error e)

/-! ## What is held -/

theorem writeAll_singleton (s : Sink) (text : String) : s.writeAll [text] = s.write text := by
  unfold writeAll
  obtain ⟨_, _ | _⟩ := s.write text <;> rfl

/-- A text that is written without a failure is held in full. -/
theorem write_of_ok {s : Sink} {text : String} (h : (s.write text).2 = .ok ()) :
    (s.write text).1 = { s with held := s.held ++ utf8 text } := by
  obtain ⟨limit, held⟩ := s
  cases limit with
  | none => rfl
  | some limit =>
    unfold write at h ⊢
    dsimp only at h ⊢
    by_cases hfits : (utf8 text).length ≤ limit - held.length
    · rw [List.take_of_length_le hfits]
    · rw [if_neg hfits] at h
      cases h

end Sink

end RecipeResolver
