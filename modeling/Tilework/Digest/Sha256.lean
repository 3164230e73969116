import Tilework.Bytes

/-!
# SHA-256

The digest of a byte string: the padded message is cut into blocks of sixteen
words, and every block is mixed into a chain of eight words by sixty-four
rounds.
-/

namespace Tilework.Sha256

/-- The eight words carried from block to block. -/
structure Chain where
  a : UInt32
  b : UInt32
  c : UInt32
  d : UInt32
  e : UInt32
  f : UInt32
  g : UInt32
  h : UInt32

/-- The chain before the first block. -/
def initial : Chain :=
  ⟨0x6a09e667, 0xbb67ae85, 0x3c6ef372, 0xa54ff53a,
    0x510e527f, 0x9b05688c, 0x1f83d9ab, 0x5be0cd19⟩

/-- One additive constant per round. -/
def roundConstants : List UInt32 :=
  [0x428a2f98, 0x71374491, 0xb5c0fbcf, 0xe9b5dba5, 0x3956c25b, 0x59f111f1, 0x923f82a4, 0xab1c5ed5,
   0xd807aa98, 0x12835b01, 0x243185be, 0x550c7dc3, 0x72be5d74, 0x80deb1fe, 0x9bdc06a7, 0xc19bf174,
   0xe49b69c1, 0xefbe4786, 0x0fc19dc6, 0x240ca1cc, 0x2de92c6f, 0x4a7484aa, 0x5cb0a9dc, 0x76f988da,
   0x983e5152, 0xa831c66d, 0xb00327c8, 0xbf597fc7, 0xc6e00bf3, 0xd5a79147, 0x06ca6351, 0x14292967,
   0x27b70a85, 0x2e1b2138, 0x4d2c6dfc, 0x53380d13, 0x650a7354, 0x766a0abb, 0x81c2c92e, 0x92722c85,
   0xa2bfe8a1, 0xa81a664b, 0xc24b8b70, 0xc76c51a3, 0xd192e819, 0xd6990624, 0xf40e3585, 0x106aa070,
   0x19a4c116, 0x1e376c08, 0x2748774c, 0x34b0bcb5, 0x391c0cb3, 0x4ed8aa4a, 0x5b9cca4f, 0x682e6ff3,
   0x748f82ee, 0x78a5636f, 0x84c87814, 0x8cc70208, 0x90befffa, 0xa4506ceb, 0xbef9a3f7, 0xc67178f2]

/-- Rotation to the right. -/
def rotate (word : UInt32) (amount : UInt32) : UInt32 :=
  (word >>> amount) ||| (word <<< (32 - amount))

/-- Add the next word to a message schedule, which is held newest first. -/
def extend (schedule : List UInt32) : List UInt32 :=
  let recent := schedule.getD 1 0
  let old := schedule.getD 14 0
  let low := rotate old 7 ^^^ rotate old 18 ^^^ (old >>> 3)
  let high := rotate recent 17 ^^^ rotate recent 19 ^^^ (recent >>> 10)
  (schedule.getD 15 0 + low + schedule.getD 6 0 + high) :: schedule

/-- The sixty-four scheduled words of a block of sixteen. -/
def schedule (block : List UInt32) : List UInt32 :=
  (Nat.repeat extend 48 block.reverse).reverse

/-- One round with its scheduled word and constant. -/
def round (s : Chain) (input : UInt32 × UInt32) : Chain :=
  let mixE := rotate s.e 6 ^^^ rotate s.e 11 ^^^ rotate s.e 25
  let choice := (s.e &&& s.f) ^^^ ((~~~s.e) &&& s.g)
  let first := s.h + mixE + choice + input.2 + input.1
  let mixA := rotate s.a 2 ^^^ rotate s.a 13 ^^^ rotate s.a 22
  let majority := (s.a &&& s.b) ^^^ (s.a &&& s.c) ^^^ (s.b &&& s.c)
  ⟨first + mixA + majority, s.a, s.b, s.c, s.d + first, s.e, s.f, s.g⟩

/-- Mix one block into the chain. -/
def compress (s : Chain) (block : List UInt32) : Chain :=
  let t := ((schedule block).zip roundConstants).foldl round s
  ⟨s.a + t.a, s.b + t.b, s.c + t.c, s.d + t.d, s.e + t.e, s.f + t.f, s.g + t.g, s.h + t.h⟩

/-- Mix `count` blocks into the chain. -/
def compressAll : (count : Nat) → Chain → List UInt32 → Chain
  | 0, chain, _ => chain
  | count + 1, chain, words =>
      compressAll count (compress chain (words.take 16)) (words.drop 16)

/-- Bytes as words, most significant byte first. -/
def words : Bytes → List UInt32
  | p :: q :: r :: s :: rest =>
      ((p.toUInt32 <<< 24) ||| (q.toUInt32 <<< 16) ||| (r.toUInt32 <<< 8) ||| s.toUInt32) ::
        words rest
  | _ => []

/-- The message, a set bit, zeros up to the last eight bytes of a block, and the
length of the message in bits. -/
def pad (message : Bytes) : Bytes :=
  let length := message.length
  message ++ 0x80 :: List.replicate ((119 - length % 64) % 64) 0 ++
    (Bytes.littleEndian 8 (8 * length)).reverse

/-- The bytes of a word, most significant first. -/
def wordBytes (word : UInt32) : Bytes :=
  (Bytes.littleEndian 4 word.toNat).reverse

/-- The thirty-two bytes of a final chain. -/
def Chain.bytes (s : Chain) : Bytes :=
  [s.a, s.b, s.c, s.d, s.e, s.f, s.g, s.h].flatMap wordBytes

/-- The digest of a message. -/
def digest (message : Bytes) : Bytes :=
  let input := words (pad message)
  (compressAll (input.length / 16) initial input).bytes

@[simp]
theorem length_bytes (s : Chain) : s.bytes.length = 32 := by
  simp [Chain.bytes, wordBytes]

/-- Every digest has thirty-two bytes. -/
@[simp]
theorem length_digest (message : Bytes) : (digest message).length = 32 :=
  length_bytes _

end Tilework.Sha256
