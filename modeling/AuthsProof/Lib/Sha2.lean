import Mathlib.Data.List.Basic
import AuthsProof.Lib.Cbor

/-! SHA-256 over byte lists, on natural numbers below `2 ^ 32`. -/

namespace Sha2

def word (n : Nat) : Nat := n % 2 ^ 32

def rotate (n amount : Nat) : Nat := (n >>> amount) ||| word (n <<< (32 - amount))

def roundConstants : List Nat :=
  [0x428a2f98, 0x71374491, 0xb5c0fbcf, 0xe9b5dba5, 0x3956c25b, 0x59f111f1, 0x923f82a4, 0xab1c5ed5,
    0xd807aa98, 0x12835b01, 0x243185be, 0x550c7dc3, 0x72be5d74, 0x80deb1fe, 0x9bdc06a7, 0xc19bf174,
    0xe49b69c1, 0xefbe4786, 0x0fc19dc6, 0x240ca1cc, 0x2de92c6f, 0x4a7484aa, 0x5cb0a9dc, 0x76f988da,
    0x983e5152, 0xa831c66d, 0xb00327c8, 0xbf597fc7, 0xc6e00bf3, 0xd5a79147, 0x06ca6351, 0x14292967,
    0x27b70a85, 0x2e1b2138, 0x4d2c6dfc, 0x53380d13, 0x650a7354, 0x766a0abb, 0x81c2c92e, 0x92722c85,
    0xa2bfe8a1, 0xa81a664b, 0xc24b8b70, 0xc76c51a3, 0xd192e819, 0xd6990624, 0xf40e3585, 0x106aa070,
    0x19a4c116, 0x1e376c08, 0x2748774c, 0x34b0bcb5, 0x391c0cb3, 0x4ed8aa4a, 0x5b9cca4f, 0x682e6ff3,
    0x748f82ee, 0x78a5636f, 0x84c87814, 0x8cc70208, 0x90befffa, 0xa4506ceb, 0xbef9a3f7, 0xc67178f2]

structure State where
  a : Nat
  b : Nat
  c : Nat
  d : Nat
  e : Nat
  f : Nat
  g : Nat
  h : Nat

def initialState : State :=
  ⟨0x6a09e667, 0xbb67ae85, 0x3c6ef372, 0xa54ff53a, 0x510e527f, 0x9b05688c, 0x1f83d9ab, 0x5be0cd19⟩

/-- One more word of the message schedule; the words so far are held latest first. -/
def extend (schedule : List Nat) : List Nat :=
  let w15 := schedule.getD 14 0
  let w2 := schedule.getD 1 0
  let s0 := rotate w15 7 ^^^ rotate w15 18 ^^^ (w15 >>> 3)
  let s1 := rotate w2 17 ^^^ rotate w2 19 ^^^ (w2 >>> 10)
  word (schedule.getD 15 0 + s0 + schedule.getD 6 0 + s1) :: schedule

def round (s : State) (input : Nat × Nat) : State :=
  let s1 := rotate s.e 6 ^^^ rotate s.e 11 ^^^ rotate s.e 25
  let ch := (s.e &&& s.f) ^^^ ((s.e ^^^ 0xffffffff) &&& s.g)
  let temp1 := s.h + s1 + ch + input.1 + input.2
  let s0 := rotate s.a 2 ^^^ rotate s.a 13 ^^^ rotate s.a 22
  let maj := (s.a &&& s.b) ^^^ (s.a &&& s.c) ^^^ (s.b &&& s.c)
  ⟨word (temp1 + s0 + maj), s.a, s.b, s.c, word (s.d + temp1), s.e, s.f, s.g⟩

/-- The words of a block, four big-endian bytes each, latest first. -/
def blockWords : List UInt8 → List Nat → List Nat
  | b0 :: b1 :: b2 :: b3 :: rest, words =>
    blockWords rest (Rfc8949.fromBigEndian [b0, b1, b2, b3] :: words)
  | _, words => words

def compress (s : State) (block : List UInt8) : State :=
  let schedule := (Nat.repeat extend 48 (blockWords block [])).reverse
  let t := (roundConstants.zip schedule).foldl round s
  ⟨word (s.a + t.a), word (s.b + t.b), word (s.c + t.c), word (s.d + t.d), word (s.e + t.e),
    word (s.f + t.f), word (s.g + t.g), word (s.h + t.h)⟩

def padding (length : Nat) : List UInt8 :=
  0x80 :: List.replicate ((119 - length % 64) % 64) 0 ++ Rfc8949.bigEndian 8 (length * 8)

/-- Folds the blocks of an input into the state. -/
def absorb : Nat → State → List UInt8 → State
  | 0, s, _ => s
  | blocks + 1, s, input => absorb blocks (compress s (input.take 64)) (input.drop 64)

def sha256 (input : List UInt8) : List UInt8 :=
  let padded := input ++ padding input.length
  let s := absorb (padded.length / 64) initialState padded
  [s.a, s.b, s.c, s.d, s.e, s.f, s.g, s.h].flatMap (Rfc8949.bigEndian 4)

theorem sha256_length (input : List UInt8) : (sha256 input).length = 32 := by
  simp [sha256]

example : (sha256 [0x61, 0x62, 0x63]).take 4 = [0xba, 0x78, 0x16, 0xbf] := by decide +kernel

end Sha2
