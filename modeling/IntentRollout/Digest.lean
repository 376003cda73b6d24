/-!
The 256-bit secure hash. The message is padded to blocks of sixteen words; each block changes eight
words of state in sixty-four rounds.
-/

namespace IntentRollout.Digest

/-- The fractional parts of the cube roots of the first sixty-four primes. -/
def roundConstants : List UInt32 := [
  0x428a2f98, 0x71374491, 0xb5c0fbcf, 0xe9b5dba5, 0x3956c25b, 0x59f111f1, 0x923f82a4, 0xab1c5ed5,
  0xd807aa98, 0x12835b01, 0x243185be, 0x550c7dc3, 0x72be5d74, 0x80deb1fe, 0x9bdc06a7, 0xc19bf174,
  0xe49b69c1, 0xefbe4786, 0x0fc19dc6, 0x240ca1cc, 0x2de92c6f, 0x4a7484aa, 0x5cb0a9dc, 0x76f988da,
  0x983e5152, 0xa831c66d, 0xb00327c8, 0xbf597fc7, 0xc6e00bf3, 0xd5a79147, 0x06ca6351, 0x14292967,
  0x27b70a85, 0x2e1b2138, 0x4d2c6dfc, 0x53380d13, 0x650a7354, 0x766a0abb, 0x81c2c92e, 0x92722c85,
  0xa2bfe8a1, 0xa81a664b, 0xc24b8b70, 0xc76c51a3, 0xd192e819, 0xd6990624, 0xf40e3585, 0x106aa070,
  0x19a4c116, 0x1e376c08, 0x2748774c, 0x34b0bcb5, 0x391c0cb3, 0x4ed8aa4a, 0x5b9cca4f, 0x682e6ff3,
  0x748f82ee, 0x78a5636f, 0x84c87814, 0x8cc70208, 0x90befffa, 0xa4506ceb, 0xbef9a3f7, 0xc67178f2]

structure State where
  a : UInt32
  b : UInt32
  c : UInt32
  d : UInt32
  e : UInt32
  f : UInt32
  g : UInt32
  h : UInt32
  deriving DecidableEq

/-- The fractional parts of the square roots of the first eight primes. -/
def initial : State :=
  ⟨0x6a09e667, 0xbb67ae85, 0x3c6ef372, 0xa54ff53a, 0x510e527f, 0x9b05688c, 0x1f83d9ab, 0x5be0cd19⟩

def rotated (word amount : UInt32) : UInt32 := (word >>> amount) ||| (word <<< (32 - amount))

/-- One round with a constant and a word of the block. -/
def State.round (state : State) (constant word : UInt32) : State :=
  let sigma1 := rotated state.e 6 ^^^ rotated state.e 11 ^^^ rotated state.e 25
  let choice := (state.e &&& state.f) ^^^ ((~~~state.e) &&& state.g)
  let first := state.h + sigma1 + choice + constant + word
  let sigma0 := rotated state.a 2 ^^^ rotated state.a 13 ^^^ rotated state.a 22
  let majority := (state.a &&& state.b) ^^^ (state.a &&& state.c) ^^^ (state.b &&& state.c)
  ⟨first + (sigma0 + majority), state.a, state.b, state.c, state.d + first, state.e, state.f, state.g⟩

def State.add (first second : State) : State :=
  ⟨first.a + second.a, first.b + second.b, first.c + second.c, first.d + second.d,
    first.e + second.e, first.f + second.f, first.g + second.g, first.h + second.h⟩

/-- The words of a block and those computed from the last sixteen. -/
def schedule : Nat → List UInt32 → List UInt32
  | 0, _ => []
  | count + 1, window =>
    let second := window.getD 1 0
    let fifteenth := window.getD 14 0
    let sigma0 := rotated second 7 ^^^ rotated second 18 ^^^ (second >>> 3)
    let sigma1 := rotated fifteenth 17 ^^^ rotated fifteenth 19 ^^^ (fifteenth >>> 10)
    let next := window.getD 0 0 + sigma0 + window.getD 9 0 + sigma1
    window.getD 0 0 :: schedule count (window.drop 1 ++ [next])

def State.absorb (state : State) (block : List UInt32) : State :=
  state.add <| (roundConstants.zip (schedule 64 block)).foldl
    (fun state pair => state.round pair.1 pair.2) state

/-- The bytes of a number of some width, the highest first. -/
def bigEndian (value : Nat) : Nat → List UInt8
  | 0 => []
  | width + 1 => UInt8.ofNat (value / Nat.pow 256 width) :: bigEndian value width

/-- A one bit, zeros up to the last eight bytes of a block, and the length in bits. -/
def padding (length : Nat) : List UInt8 :=
  0x80 :: List.replicate ((119 - length % 64) % 64) 0 ++ bigEndian (8 * length) 8

def words : List UInt8 → List UInt32
  | first :: second :: third :: fourth :: rest =>
    ((first.toUInt32 <<< 24) ||| (second.toUInt32 <<< 16) ||| (third.toUInt32 <<< 8) |||
      fourth.toUInt32) :: words rest
  | _ => []

def absorbBlocks : Nat → State → List UInt32 → State
  | 0, state, _ => state
  | count + 1, state, message => absorbBlocks count (state.absorb (message.take 16)) (message.drop 16)

def hexadecimalByte (byte : UInt8) : List Char :=
  [Nat.digitChar (byte.toNat / 16), Nat.digitChar (byte.toNat % 16)]

def State.text (state : State) : String :=
  String.ofList <| [state.a, state.b, state.c, state.d, state.e, state.f, state.g, state.h].flatMap
    fun word => (bigEndian word.toNat 4).flatMap hexadecimalByte

/-- The digest of bytes in lower-case hexadecimal digits. -/
def ofBytes (bytes : ByteArray) : String :=
  let message := words (bytes.toList ++ padding bytes.size)
  (absorbBlocks (message.length / 16) initial message).text

def ofText (text : String) : String := ofBytes text.toUTF8

end IntentRollout.Digest
