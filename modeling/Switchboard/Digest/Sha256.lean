import Switchboard.Digest.Hex

namespace Switchboard.Digest

/-!
# SHA-256

The digest of a byte string: the bytes are padded to whole blocks of 64, and each block is
mixed into eight words of state by 64 rounds.
-/

namespace Sha256

/-- The eight words that blocks are mixed into. -/
structure State where
  a : UInt32
  b : UInt32
  c : UInt32
  d : UInt32
  e : UInt32
  f : UInt32
  g : UInt32
  h : UInt32
  deriving Repr, DecidableEq

/-- The state before the first block. -/
def initial : State :=
  { a := 0x6a09e667, b := 0xbb67ae85, c := 0x3c6ef372, d := 0xa54ff53a
    e := 0x510e527f, f := 0x9b05688c, g := 0x1f83d9ab, h := 0x5be0cd19 }

/-- One constant for each round. -/
def roundConstants : List UInt32 :=
  [
    0x428a2f98, 0x71374491, 0xb5c0fbcf, 0xe9b5dba5, 0x3956c25b, 0x59f111f1,
    0x923f82a4, 0xab1c5ed5, 0xd807aa98, 0x12835b01, 0x243185be, 0x550c7dc3,
    0x72be5d74, 0x80deb1fe, 0x9bdc06a7, 0xc19bf174, 0xe49b69c1, 0xefbe4786,
    0x0fc19dc6, 0x240ca1cc, 0x2de92c6f, 0x4a7484aa, 0x5cb0a9dc, 0x76f988da,
    0x983e5152, 0xa831c66d, 0xb00327c8, 0xbf597fc7, 0xc6e00bf3, 0xd5a79147,
    0x06ca6351, 0x14292967, 0x27b70a85, 0x2e1b2138, 0x4d2c6dfc, 0x53380d13,
    0x650a7354, 0x766a0abb, 0x81c2c92e, 0x92722c85, 0xa2bfe8a1, 0xa81a664b,
    0xc24b8b70, 0xc76c51a3, 0xd192e819, 0xd6990624, 0xf40e3585, 0x106aa070,
    0x19a4c116, 0x1e376c08, 0x2748774c, 0x34b0bcb5, 0x391c0cb3, 0x4ed8aa4a,
    0x5b9cca4f, 0x682e6ff3, 0x748f82ee, 0x78a5636f, 0x84c87814, 0x8cc70208,
    0x90befffa, 0xa4506ceb, 0xbef9a3f7, 0xc67178f2]

/-- Rotate a word to the right. -/
def rotate (word amount : UInt32) : UInt32 :=
  (word >>> amount) ||| (word <<< (32 - amount))

/-- The bytes of a number, the highest first, in `width` places. -/
def bigEndian (width value : Nat) : List UInt8 :=
  (List.range width).map fun place => UInt8.ofNat (value >>> (8 * (width - 1 - place)))

/-- A message followed by its end mark, zeros up to a whole block, and its length in bits. -/
def pad (message : List UInt8) : List UInt8 :=
  let zeros := (119 - message.length % 64) % 64
  message ++ [0x80] ++ List.replicate zeros 0 ++ bigEndian 8 (8 * message.length)

/-- Whole words of four bytes, the highest byte first. -/
def words : List UInt8 → List UInt32
  | first :: second :: third :: fourth :: rest =>
      (first.toUInt32 <<< 24 ||| second.toUInt32 <<< 16 |||
        third.toUInt32 <<< 8 ||| fourth.toUInt32) :: words rest
  | _ => []

/-- The next word of a block's schedule, given the last sixteen, the latest first. -/
def scheduleWord (recent : List UInt32) : UInt32 :=
  let early := recent.getD 14 0
  let late := recent.getD 1 0
  let low := rotate early 7 ^^^ rotate early 18 ^^^ (early >>> 3)
  let high := rotate late 17 ^^^ rotate late 19 ^^^ (late >>> 10)
  recent.getD 15 0 + low + recent.getD 6 0 + high

/-- The words of a block and the ones derived from them, the latest first. -/
def extend : Nat → List UInt32 → List UInt32
  | 0, recent => recent
  | count + 1, recent => extend count (scheduleWord recent :: recent)

/-- One round of mixing. -/
def round (state : State) (constant word : UInt32) : State :=
  let turn := rotate state.e 6 ^^^ rotate state.e 11 ^^^ rotate state.e 25
  let choice := (state.e &&& state.f) ^^^ (~~~state.e &&& state.g)
  let first := state.h + turn + choice + constant + word
  let spin := rotate state.a 2 ^^^ rotate state.a 13 ^^^ rotate state.a 22
  let majority := (state.a &&& state.b) ^^^ (state.a &&& state.c) ^^^ (state.b &&& state.c)
  { a := first + (spin + majority), b := state.a, c := state.b, d := state.c
    e := state.d + first, f := state.e, g := state.f, h := state.g }

/-- Mix one block of sixteen words into the state. -/
def compress (state : State) (block : List UInt32) : State :=
  let schedule := (extend 48 block.reverse).reverse
  let mixed :=
    (roundConstants.zip schedule).foldl (fun now pair => round now pair.1 pair.2) state
  { a := state.a + mixed.a, b := state.b + mixed.b, c := state.c + mixed.c
    d := state.d + mixed.d, e := state.e + mixed.e, f := state.f + mixed.f
    g := state.g + mixed.g, h := state.h + mixed.h }

/-- Mix words into the state, `blocks` blocks of sixteen. -/
def absorb : Nat → State → List UInt32 → State
  | 0, state, _ => state
  | blocks + 1, state, stream =>
      absorb blocks (compress state (stream.take 16)) (stream.drop 16)

end Sha256

/-- The SHA-256 digest of a byte string. -/
def sha256 (message : List UInt8) : List UInt8 :=
  let padded := Sha256.pad message
  let final := Sha256.absorb (padded.length / 64) Sha256.initial (Sha256.words padded)
  [final.a, final.b, final.c, final.d, final.e, final.f, final.g, final.h].flatMap fun word =>
    Sha256.bigEndian 4 word.toNat

/-- The SHA-256 digest of a text's UTF-8 bytes, in hexadecimal. -/
def sha256Hex (text : String) : String :=
  hex (sha256 text.toUTF8.toList)

end Switchboard.Digest
