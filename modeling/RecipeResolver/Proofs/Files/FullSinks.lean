import RecipeResolver.Proofs.Digest.SelfDelimiting
import RecipeResolver.Resolution.Handoff

/-!
# Writing to a sink that fills up

A text may be written at once or in pieces: a sink ends up with the same bytes and the same answer
(`Sink.writeAll_eq_write`). So of everything that is written in many places only the whole counts,
and what a sink with little room keeps of it is said once (`Sink.write_upTo`). The writers differ in
the failure that they report. It is a plain one for plans as text, and for JSON it depends on
whether some of the JSON is missing or only the end of its last line.
-/

namespace RecipeResolver

namespace Sink

/-! ## Writing in pieces -/

/-- Two texts are written one after the other as the text of both is written. -/
theorem write_append (s : Sink) (a b : String) :
    s.write (a ++ b) =
      match s.write a with
      | (s, .ok ()) => s.write b
      | (s, .error e) => (s, .error e) := by
  obtain ⟨limit, held⟩ := s
  cases limit with
  | none =>
    unfold write
    dsimp only
    rw [utf8_append, List.append_assoc]
  | some limit =>
    by_cases hfits : (utf8 a).length ≤ limit - held.length
    · -- the second text has the room that the first one leaves
      have hroom : limit - (held ++ utf8 a).length = limit - held.length - (utf8 a).length := by
        rw [List.length_append, Nat.sub_add_eq]
      have hfitsBoth : (utf8 a).length + (utf8 b).length ≤ limit - held.length ↔
          (utf8 b).length ≤ limit - held.length - (utf8 a).length := by omega
      unfold write
      dsimp only
      rw [if_pos hfits, List.take_of_length_le hfits]
      dsimp only
      rw [hroom, utf8_append, List.take_append, List.take_of_length_le hfits, List.append_assoc,
        List.length_append]
      simp only [hfitsBoth]
    · -- nothing of the second text is written
      have hexceeds : ¬ (utf8 a).length + (utf8 b).length ≤ limit - held.length := by omega
      unfold write
      dsimp only
      rw [if_neg hfits, utf8_append, List.length_append, if_neg hexceeds,
        List.take_append_of_le_length (by omega)]

theorem write_empty (s : Sink) : s.write "" = (s, .ok ()) := by
  obtain ⟨limit, held⟩ := s
  have hempty : utf8 "" = [] := rfl
  cases limit with
  | none =>
    unfold write
    dsimp only
    rw [hempty, List.append_nil]
  | some limit =>
    unfold write
    dsimp only
    rw [hempty, List.take_nil, List.append_nil]
    exact congrArg _ (if_pos (Nat.zero_le _))

/-- Texts are written one after the other as one text is written, however it is cut. -/
theorem writeAll_eq_write (s : Sink) (texts : List String) :
    s.writeAll texts = s.write (String.join texts) := by
  induction texts generalizing s with
  | nil => exact (s.write_empty).symm
  | cons text rest ih =>
    rw [String.join_cons, write_append, writeAll]
    obtain ⟨s', _ | _⟩ := s.write text
    · rfl
    · exact ih s'

/-! ## What is kept -/

/-- A sink that has room for `n` bytes keeps the first `n` bytes of a text. -/
theorem write_room (held : List UInt8) (n : Nat) (text : String) :
    write ⟨some (held.length + n), held⟩ text =
      (⟨some (held.length + n), held ++ (utf8 text).take n⟩,
        if (utf8 text).length ≤ n then .ok () else .error .full) := by
  unfold write
  dsimp only
  rw [Nat.add_sub_cancel_left]

end Sink

/-- What is written comes to these bytes. A sink without a limit takes all of them. A sink that has
room for `n` bytes keeps the first `n`, and `failure n` is reported if there are more. -/
def Delivers (write : Sink → Sink × Except Failure Unit) (full : List UInt8)
    (failure : Nat → Failure) : Prop :=
  ∀ held : List UInt8, write ⟨none, held⟩ = (⟨none, held ++ full⟩, .ok ()) ∧
    ∀ n, write ⟨some (held.length + n), held⟩ =
      (⟨some (held.length + n), held ++ full.take n⟩,
        if full.length ≤ n then .ok () else .error (failure n))

/-- The failure of a sink that had room for `n` of so many bytes, the last of which ends a line. If
this byte alone is missing, it is not said what was being written. -/
def roomFailure (doing : Circumstance) (length n : Nat) : Failure :=
  if n + 1 < length then ⟨[doing], .output .full⟩ else .of (.file .full)

theorem length_utf8_line (text : String) :
    (utf8 (text ++ "\n")).length = (utf8 text).length + 1 := by
  rw [utf8_append, List.length_append]
  rfl

theorem delivers_textPlanWriter (plan : Plan) : Delivers (textPlanWriter plan)
    (utf8 (String.join plan.lines)) fun _ => .of (.file .full) := by
  intro held
  unfold textPlanWriter
  constructor
  · rw [Sink.writeAll_eq_write]
    rfl
  · intro n
    rw [Sink.writeAll_eq_write, Sink.write_room]
    by_cases hfits : (utf8 (String.join plan.lines)).length ≤ n
    · rw [if_pos hfits, if_pos hfits]
    · rw [if_neg hfits, if_neg hfits]

theorem delivers_writePieces (doing : Circumstance) (pieces : List String) :
    Delivers (writePieces doing pieces) (utf8 (String.join pieces ++ "\n"))
      (roomFailure doing (utf8 (String.join pieces ++ "\n")).length) := by
  generalize htext : String.join pieces = text
  intro held
  unfold writePieces
  constructor
  · rw [Sink.writeAll_eq_write, htext, utf8_append, ← List.append_assoc]
    rfl
  · intro n
    have hline := length_utf8_line text
    -- the sink is left as if the text and the end of its line were written at once
    have hwhole := Sink.write_room held n (text ++ "\n")
    rw [Sink.write_append, Sink.write_room] at hwhole
    rw [Sink.writeAll_eq_write, htext, Sink.write_room]
    by_cases hfits : (utf8 text).length ≤ n
    · rw [if_pos hfits] at hwhole ⊢
      dsimp only at hwhole ⊢
      rw [hwhole]
      by_cases hend : (utf8 (text ++ "\n")).length ≤ n
      · rw [if_pos hend, if_pos hend]
      · have hlast : ¬ n + 1 < (utf8 (text ++ "\n")).length := by omega
        rw [if_neg hend, if_neg hend, roomFailure, if_neg hlast]
    · have hlost : n + 1 < (utf8 (text ++ "\n")).length := by omega
      rw [if_neg hfits] at hwhole ⊢
      dsimp only at hwhole ⊢
      rw [(Prod.mk.inj hwhole).1, if_neg (by omega), roomFailure, if_pos hlost]

/-- JSON is written in the same way however its text is cut into pieces. -/
theorem writePieces_eq_writeJson {pieces : List String} {j : Json}
    (h : String.join pieces = j.pretty) (doing : Circumstance) :
    writePieces doing pieces = writeJson doing j := by
  funext sink
  unfold writeJson writePieces
  rw [Sink.writeAll_eq_write, h, Sink.writeAll_singleton]

/-- Whatever plan and whatever metadata are written, a sink that has room for `n` bytes keeps the
first `n` bytes of the text that a sink without a limit receives, and the writing succeeds if there
are no more. Otherwise it fails for want of room. For JSON the failure says what was being written,
unless just the end of the last line is missing. All this does not depend on how many writes the
text is cut into. -/
theorem writers_keep_first_bytes (plan : Plan) (m : PackageMetadata) :
    Delivers (planWriter false plan) (utf8 (String.join plan.lines)) (fun _ => .of (.file .full)) ∧
    (let full := utf8 (plan.toJson.pretty ++ "\n")
     Delivers (planWriter true plan) full (roomFailure .writingPlan full.length)) ∧
    (let full := utf8 (m.toJson.pretty ++ "\n")
     Delivers (metadataWriter m) full (roomFailure .writingMetadata full.length)) ∧
    Circumstance.writingPlan.message = "failed to serialize build plan" ∧
    Circumstance.writingMetadata.message = "failed to serialize package metadata" ∧
    (∀ (sink : Sink) (pieces : List String), String.join pieces = String.join plan.lines →
      sink.writeAll pieces = sink.writeAll plan.lines) ∧
    (∀ pieces : List String, String.join pieces = plan.toJson.pretty →
      writePieces .writingPlan pieces = planWriter true plan) ∧
    ∀ pieces : List String, String.join pieces = m.toJson.pretty →
      writePieces .writingMetadata pieces = metadataWriter m := by
  have hjson (doing : Circumstance) (j : Json) : Delivers (writeJson doing j)
      (utf8 (j.pretty ++ "\n")) (roomFailure doing (utf8 (j.pretty ++ "\n")).length) := by
    have hone : String.join [j.pretty] = j.pretty := by
      rw [String.join_cons, String.join_nil, String.append_empty]
    have hdelivers := delivers_writePieces doing [j.pretty]
    rwa [hone] at hdelivers
  refine ⟨delivers_textPlanWriter plan, hjson _ _, hjson _ _, rfl, rfl, fun sink pieces h => ?_,
    fun pieces h => writePieces_eq_writeJson h _, fun pieces h => writePieces_eq_writeJson h _⟩
  rw [Sink.writeAll_eq_write, Sink.writeAll_eq_write, h]

-- the end of the line does not fit
example : writePieces .writingPlan ["[", "]"] (.upTo 2) =
    (⟨some 2, utf8 "[]"⟩, .error (.of (.file .full))) := by
  cbv

end RecipeResolver
