import LogTemplate.Batch
import LogTemplate.Text.Digit

/-!
# SHA-256

The digest of a sequence of bytes, as the standard defines it: the padded message is cut into
blocks of sixteen words, and each block is mixed into eight words of state.
-/

namespace LogTemplate.Sha256

/-- The eight words of state. -/
structure State where
  a : UInt32
  b : UInt32
  c : UInt32
  d : UInt32
  e : UInt32
  f : UInt32
  g : UInt32
  h : UInt32

/-- The state before the first block. -/
def initial : State :=
  ⟨0x6a09e667, 0xbb67ae85, 0x3c6ef372, 0xa54ff53a, 0x510e527f, 0x9b05688c, 0x1f83d9ab, 0x5be0cd19⟩

/-- The constants of the sixty-four rounds. -/
def constants : List UInt32 := [
  0x428a2f98, 0x71374491, 0xb5c0fbcf, 0xe9b5dba5, 0x3956c25b, 0x59f111f1, 0x923f82a4, 0xab1c5ed5,
  0xd807aa98, 0x12835b01, 0x243185be, 0x550c7dc3, 0x72be5d74, 0x80deb1fe, 0x9bdc06a7, 0xc19bf174,
  0xe49b69c1, 0xefbe4786, 0x0fc19dc6, 0x240ca1cc, 0x2de92c6f, 0x4a7484aa, 0x5cb0a9dc, 0x76f988da,
  0x983e5152, 0xa831c66d, 0xb00327c8, 0xbf597fc7, 0xc6e00bf3, 0xd5a79147, 0x06ca6351, 0x14292967,
  0x27b70a85, 0x2e1b2138, 0x4d2c6dfc, 0x53380d13, 0x650a7354, 0x766a0abb, 0x81c2c92e, 0x92722c85,
  0xa2bfe8a1, 0xa81a664b, 0xc24b8b70, 0xc76c51a3, 0xd192e819, 0xd6990624, 0xf40e3585, 0x106aa070,
  0x19a4c116, 0x1e376c08, 0x2748774c, 0x34b0bcb5, 0x391c0cb3, 0x4ed8aa4a, 0x5b9cca4f, 0x682e6ff3,
  0x748f82ee, 0x78a5636f, 0x84c87814, 0x8cc70208, 0x90befffa, 0xa4506ceb, 0xbef9a3f7, 0xc67178f2]

/-- A word turned right by a number of bits between one and thirty-one. -/
def turn (x n : UInt32) : UInt32 := (x >>> n) ||| (x <<< (32 - n))

/-- The sixteen latest words of the schedule, the latest first, followed by one more. -/
def nextWord (latest : List UInt32) : UInt32 :=
  let word := fun (i : Nat) => latest.getD i 0
  let w15 := word 14
  let w2 := word 1
  let s0 := turn w15 7 ^^^ turn w15 18 ^^^ (w15 >>> 3)
  let s1 := turn w2 17 ^^^ turn w2 19 ^^^ (w2 >>> 10)
  word 15 + s0 + word 6 + s1

/-- The schedule of a block: its sixteen words, followed by as many more as asked for. -/
def schedule (block : List UInt32) (more : Nat) : List UInt32 :=
  (more.repeat (fun words => nextWord words :: words) block.reverse).reverse

/-- One round. -/
def round (s : State) (wordAndConstant : UInt32 × UInt32) : State :=
  let s1 := turn s.e 6 ^^^ turn s.e 11 ^^^ turn s.e 25
  let choice := (s.e &&& s.f) ^^^ (~~~s.e &&& s.g)
  let t1 := s.h + s1 + choice + wordAndConstant.2 + wordAndConstant.1
  let s0 := turn s.a 2 ^^^ turn s.a 13 ^^^ turn s.a 22
  let majority := (s.a &&& s.b) ^^^ (s.a &&& s.c) ^^^ (s.b &&& s.c)
  ⟨t1 + (s0 + majority), s.a, s.b, s.c, s.d + t1, s.e, s.f, s.g⟩

/-- Mixes one block into the state. -/
def absorb (s : State) (block : List UInt32) : State :=
  let t := ((schedule block 48).zip constants).foldl round s
  ⟨s.a + t.a, s.b + t.b, s.c + t.c, s.d + t.d, s.e + t.e, s.f + t.f, s.g + t.g, s.h + t.h⟩

/-- The bytes of a whole number, the highest first. -/
def bigEndian : (count : Nat) → Nat → List UInt8
  | 0, _ => []
  | count + 1, n => bigEndian count (n / 256) ++ [UInt8.ofNat (n % 256)]

/-- The message with the bit one, zeros up to eight bytes before the end of a block, and its length
in bits. -/
def pad (message : List UInt8) : List UInt8 :=
  let zeros := (119 - message.length % 64) % 64
  message ++ 0x80 :: List.replicate zeros 0 ++ bigEndian 8 (8 * message.length)

/-- The words of bytes, four to a word. -/
def words : List UInt8 → List UInt32
  | a :: b :: c :: d :: rest =>
    ((a.toUInt32 <<< 24) ||| (b.toUInt32 <<< 16) ||| (c.toUInt32 <<< 8) ||| d.toUInt32)
      :: words rest
  | _ => []

/-- The state after the whole message. -/
def digest (message : List UInt8) : State := (batches 16 (words (pad message))).foldl absorb initial

/-- The digest in lower-case hexadecimal. -/
def hex (message : List UInt8) : Text :=
  let s := digest message
  Text.ofList ([s.a, s.b, s.c, s.d, s.e, s.f, s.g, s.h].flatMap fun word =>
    Text.hexDigits 8 word.toNat)

theorem isWhole_hex (message : List UInt8) : Text.isWhole (hex message).toList = true := by
  rw [hex, Text.toList_ofList, Text.isWhole, List.all_flatMap, List.all_eq_true]
  exact fun word _ => Text.isWhole_hexDigits 8 word.toNat

end LogTemplate.Sha256
