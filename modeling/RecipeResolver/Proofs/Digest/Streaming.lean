import RecipeResolver.Digest.Sha256

/-!
# Hashing part by part

An `Incremental` way to compute a hash takes the message in parts and answers with the hash of the
parts put together. `Sha256.Stream.incremental` is one for SHA-256: it works off whole blocks as
soon as they are complete, and keeps only the bytes behind them and the length of the message.

What a stream holds is said by what it will come to: `Stream.Holds s message` compares it with the
message itself for any bytes that may still follow. This is what one part preserves
(`Stream.Holds.update`), because whole blocks can be worked off in advance (`absorb_words_append`).
-/

namespace RecipeResolver

/-- A way to compute a hash from a message that comes in parts. -/
structure Incremental {α : Type} (hash : List UInt8 → α) where
  State : Type
  start : State
  update : State → List UInt8 → State
  finalize : State → α
  /-- The parts count together, however the message is cut. -/
  finalize_foldl (parts : List (List UInt8)) :
    finalize (parts.foldl update start) = hash parts.flatten

namespace Sha256

/-! ## Whole blocks in advance -/

/-- Bytes that are four for each word are read word by word. -/
theorem words_append {n : Nat} {front : List UInt8} (h : front.length = 4 * n)
    (rest : List UInt8) :
    words (front ++ rest) = words front ++ words rest ∧ (words front).length = n := by
  induction n generalizing front with
  | zero =>
    obtain rfl : front = [] := List.eq_nil_of_length_eq_zero h
    exact ⟨rfl, rfl⟩
  | succ n ih =>
    match front with
    | p :: q :: r :: s :: front =>
      have hfront : front.length = 4 * n := by
        simp only [List.length_cons] at h
        omega
      obtain ⟨happend, hlength⟩ := ih hfront
      simp only [List.cons_append, words, happend, List.length_cons, hlength, and_self]
    | [] | [_] | [_, _] | [_, _, _] =>
      simp only [List.length_cons, List.length_nil] at h
      omega

/-- Blocks that are complete are worked off before the words behind them. -/
theorem absorb_append {n : Nat} {blocks : List UInt32} (h : blocks.length = 16 * n) (s : State)
    (ws : List UInt32) : absorb s (blocks ++ ws) = absorb (absorb s blocks) ws := by
  induction n generalizing s blocks with
  | zero =>
    obtain rfl : blocks = [] := List.eq_nil_of_length_eq_zero h
    have hnil : absorb s [] = s := by rw [absorb, if_neg (by simp)]
    rw [hnil, List.nil_append]
  | succ n ih =>
    have hlong : 16 ≤ blocks.length := by omega
    have hdrop : (blocks.drop 16).length = 16 * n := by
      rw [List.length_drop]
      omega
    -- the first block lies within the blocks in front, so it is the same one on both sides
    have hfirst : absorb s blocks = absorb (compress s (blocks.take 16)) (blocks.drop 16) := by
      rw [absorb, if_pos (by omega)]
    rw [hfirst, ← ih hdrop, absorb, if_pos (by rw [List.length_append]; omega),
      List.take_append_of_le_length hlong, List.drop_append_of_le_length hlong]

/-- Bytes that fill whole blocks are worked off before the bytes behind them. -/
theorem absorb_words_append {n : Nat} {front : List UInt8} (h : front.length = 64 * n) (s : State)
    (rest : List UInt8) :
    absorb s (words (front ++ rest)) = absorb (absorb s (words front)) (words rest) := by
  have hwords : front.length = 4 * (16 * n) := by omega
  obtain ⟨happend, hlength⟩ := words_append hwords rest
  rw [happend, absorb_append hlength]

/-! ## Streams -/

/-- What stands behind a message of this length to fill the last block. -/
def padding (n : Nat) : List UInt8 :=
  0x80 :: List.replicate (fillCount n) 0 ++ lengthBytes (8 * n)

theorem pad_eq (message : List UInt8) : pad message = message ++ padding message.length := by
  unfold pad padding
  rw [List.append_assoc]

/-- The eight words as 64 hexadecimal digits. -/
def State.hex (s : State) : String :=
  String.ofList (([s.a, s.b, s.c, s.d, s.e, s.f, s.g, s.h].flatMap wordBytes).flatMap
    fun b => Text.hexPair b.toNat)

theorem hexDigest_eq (message : List UInt8) :
    hexDigest message = (absorb .start (words (message ++ padding message.length))).hex := by
  rw [← pad_eq]
  rfl

/-- A message so far: the words after its whole blocks, the bytes behind them, and its length. -/
structure Stream where
  state : State
  pending : List UInt8
  count : Nat
  deriving DecidableEq, Repr

namespace Stream

/-- The empty message. -/
def start : Stream := ⟨.start, [], 0⟩

/-- Takes one more part and works off the blocks that it completes. -/
def update (s : Stream) (part : List UInt8) : Stream :=
  let bytes := s.pending ++ part
  let whole := 64 * (bytes.length / 64)
  ⟨absorb s.state (words (bytes.take whole)), bytes.drop whole, s.count + part.length⟩

/-- Pads what is pending and answers with the hash. -/
def finalize (s : Stream) : String :=
  (absorb s.state (words (s.pending ++ padding s.count))).hex

/-- A stream stands for a message: both come to the same, whatever bytes follow. -/
structure Holds (s : Stream) (message : List UInt8) : Prop where
  absorb_eq (rest : List UInt8) :
    absorb s.state (words (s.pending ++ rest)) = absorb .start (words (message ++ rest))
  count_eq : s.count = message.length

theorem holds_start : start.Holds [] :=
  ⟨fun _ => rfl, rfl⟩

/-- One more part makes the message longer. -/
theorem Holds.update {s : Stream} {message : List UInt8} (h : s.Holds message)
    (part : List UInt8) : (s.update part).Holds (message ++ part) where
  absorb_eq rest := by
    unfold Stream.update
    dsimp only
    generalize hbytes : s.pending ++ part = bytes
    have hwhole : (bytes.take (64 * (bytes.length / 64))).length = 64 * (bytes.length / 64) := by
      rw [List.length_take]
      omega
    -- the whole blocks and what is left of them are put together again to what was pending before
    rw [← absorb_words_append hwhole, ← List.append_assoc, List.take_append_drop, ← hbytes,
      List.append_assoc, h.absorb_eq, List.append_assoc]
  count_eq := by
    unfold Stream.update
    rw [List.length_append, h.count_eq]

theorem Holds.foldl {s : Stream} {message : List UInt8} (h : s.Holds message)
    (parts : List (List UInt8)) :
    (parts.foldl Stream.update s).Holds (message ++ parts.flatten) := by
  induction parts generalizing s message with
  | nil =>
    rw [List.flatten_nil, List.append_nil]
    exact h
  | cons part parts ih =>
    rw [List.foldl_cons, List.flatten_cons, ← List.append_assoc]
    exact ih (h.update part)

theorem Holds.finalize_eq {s : Stream} {message : List UInt8} (h : s.Holds message) :
    s.finalize = hexDigest message := by
  unfold finalize
  rw [hexDigest_eq, h.absorb_eq, h.count_eq]

/-- SHA-256 block by block. -/
def incremental : Incremental hexDigest where
  State := Stream
  start := start
  update := update
  finalize := finalize
  finalize_foldl parts := (holds_start.foldl parts).finalize_eq

end Stream

end Sha256

end RecipeResolver
