import RecipeResolver.Text.Hexadecimal

/-!
# SHA-256

The hash function SHA-256 on lists of bytes: padding, the message schedule, the compression of one
block, and the digest as 32 bytes or 64 hexadecimal digits.
-/

namespace RecipeResolver.Sha256

/-- The round constants. -/
def roundConstants : List UInt32 := [
  0x428a2f98, 0x71374491, 0xb5c0fbcf, 0xe9b5dba5, 0x3956c25b, 0x59f111f1, 0x923f82a4, 0xab1c5ed5,
  0xd807aa98, 0x12835b01, 0x243185be, 0x550c7dc3, 0x72be5d74, 0x80deb1fe, 0x9bdc06a7, 0xc19bf174,
  0xe49b69c1, 0xefbe4786, 0x0fc19dc6, 0x240ca1cc, 0x2de92c6f, 0x4a7484aa, 0x5cb0a9dc, 0x76f988da,
  0x983e5152, 0xa831c66d, 0xb00327c8, 0xbf597fc7, 0xc6e00bf3, 0xd5a79147, 0x06ca6351, 0x14292967,
  0x27b70a85, 0x2e1b2138, 0x4d2c6dfc, 0x53380d13, 0x650a7354, 0x766a0abb, 0x81c2c92e, 0x92722c85,
  0xa2bfe8a1, 0xa81a664b, 0xc24b8b70, 0xc76c51a3, 0xd192e819, 0xd6990624, 0xf40e3585, 0x106aa070,
  0x19a4c116, 0x1e376c08, 0x2748774c, 0x34b0bcb5, 0x391c0cb3, 0x4ed8aa4a, 0x5b9cca4f, 0x682e6ff3,
  0x748f82ee, 0x78a5636f, 0x84c87814, 0x8cc70208, 0x90befffa, 0xa4506ceb, 0xbef9a3f7, 0xc67178f2]

/-- The eight words that are carried from block to block. -/
structure State where
  a : UInt32
  b : UInt32
  c : UInt32
  d : UInt32
  e : UInt32
  f : UInt32
  g : UInt32
  h : UInt32
  deriving DecidableEq, Repr

/-- The words before the first block. -/
def State.start : State :=
  ⟨0x6a09e667, 0xbb67ae85, 0x3c6ef372, 0xa54ff53a, 0x510e527f, 0x9b05688c, 0x1f83d9ab, 0x5be0cd19⟩

/-- Word by word addition. -/
def State.add (s t : State) : State :=
  ⟨s.a + t.a, s.b + t.b, s.c + t.c, s.d + t.d, s.e + t.e, s.f + t.f, s.g + t.g, s.h + t.h⟩

/-- Rotation to the right by less than 32 places. -/
def rotate (x n : UInt32) : UInt32 :=
  (x >>> n) ||| (x <<< (32 - n))

/-! ## Padding -/

/-- The eight bytes of a 64-bit number, highest first. -/
def lengthBytes (n : Nat) : List UInt8 :=
  [56, 48, 40, 32, 24, 16, 8, 0].map fun shift => UInt8.ofNat (n >>> shift)

/-- The number of zero bytes that fill the last block. -/
def fillCount (n : Nat) : Nat :=
  (119 - n % 64) % 64

/-- The message, a mark, zeros, and the length of the message in bits; whole blocks of 64 bytes. -/
def pad (message : List UInt8) : List UInt8 :=
  message ++ 0x80 :: List.replicate (fillCount message.length) 0 ++ lengthBytes (8 * message.length)

/-- Bytes taken four at a time as words, highest byte first. -/
def words : List UInt8 → List UInt32
  | p :: q :: r :: s :: rest =>
    ((p.toUInt32 <<< 24) ||| (q.toUInt32 <<< 16) ||| (r.toUInt32 <<< 8) ||| s.toUInt32) ::
      words rest
  | _ => []

/-! ## One block -/

/-- The next word of the schedule after the words so far, which are given last first. -/
def nextWord (ws : List UInt32) : UInt32 :=
  let x := ws.getD 1 0
  let y := ws.getD 14 0
  (rotate x 17 ^^^ rotate x 19 ^^^ (x >>> 10)) + ws.getD 6 0 +
    (rotate y 7 ^^^ rotate y 18 ^^^ (y >>> 3)) + ws.getD 15 0

/-- Adds `n` words to a schedule that is given last first. -/
def extend : Nat → List UInt32 → List UInt32
  | 0, ws => ws
  | n + 1, ws => extend n (nextWord ws :: ws)

/-- The 64 words of the schedule of a block. -/
def schedule (block : List UInt32) : List UInt32 :=
  (extend 48 block.reverse).reverse

/-- One round, with its constant and its word of the schedule. -/
def round (s : State) (k w : UInt32) : State :=
  let t := s.h + (rotate s.e 6 ^^^ rotate s.e 11 ^^^ rotate s.e 25) +
    ((s.e &&& s.f) ^^^ (~~~s.e &&& s.g)) + k + w
  let u := (rotate s.a 2 ^^^ rotate s.a 13 ^^^ rotate s.a 22) +
    ((s.a &&& s.b) ^^^ (s.a &&& s.c) ^^^ (s.b &&& s.c))
  ⟨t + u, s.a, s.b, s.c, s.d + t, s.e, s.f, s.g⟩

/-- The words after a block. -/
def compress (s : State) (block : List UInt32) : State :=
  s.add ((roundConstants.zip (schedule block)).foldl (fun s (k, w) => round s k w) s)

/-! ## Messages -/

/-- The words after a message that is given in words; each block is sixteen of them. -/
def absorb (s : State) (ws : List UInt32) : State :=
  if 0 < ws.length then absorb (compress s (ws.take 16)) (ws.drop 16) else s
  termination_by ws.length
  decreasing_by
    simp only [List.length_drop]
    omega

/-- The four bytes of a word, highest first. -/
def wordBytes (w : UInt32) : List UInt8 :=
  [(w >>> 24).toUInt8, (w >>> 16).toUInt8, (w >>> 8).toUInt8, w.toUInt8]

/-- The digest of a message. -/
def digest (message : List UInt8) : List UInt8 :=
  let s := absorb .start (words (pad message))
  [s.a, s.b, s.c, s.d, s.e, s.f, s.g, s.h].flatMap wordBytes

/-- The digest in hexadecimal. -/
def hexDigest (message : List UInt8) : String :=
  String.ofList ((digest message).flatMap fun b => Text.hexPair b.toNat)

/-- A digest in hexadecimal has 64 digits. -/
theorem length_hexDigest (message : List UInt8) : (hexDigest message).toList.length = 64 := by
  simp [hexDigest, digest, Text.hexPair, wordBytes]

/-- The hexadecimal form loses nothing of a digest. -/
theorem digest_eq_of_hexDigest_eq {message message' : List UInt8}
    (h : hexDigest message = hexDigest message') : digest message = digest message' :=
  Text.flatMap_hexPair_injective (String.ofList_injective h)

end RecipeResolver.Sha256
