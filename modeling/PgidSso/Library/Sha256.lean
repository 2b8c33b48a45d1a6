import Mathlib.Data.Nat.Bits

/-! The digest SHA-256, over words that are natural numbers below `2 ^ 32`. -/

namespace sha2

section words

def word (value : Nat) : Nat :=
  value % 4294967296

def rotateRight (count value : Nat) : Nat :=
  value >>> count ||| word (value <<< (32 - count))

/-- The four bytes of a word, the most significant one first. -/
def wordBytes (value : Nat) : List UInt8 :=
  [UInt8.ofNat (value / 16777216), UInt8.ofNat (value / 65536), UInt8.ofNat (value / 256), UInt8.ofNat value]

def bytesWords : List UInt8 → List Nat
  | first :: second :: third :: fourth :: rest =>
    (first.toNat * 16777216 + second.toNat * 65536 + third.toNat * 256 + fourth.toNat) :: bytesWords rest
  | _ => []

end words

section rounds

def roundConstants : List Nat :=
  [0x428a2f98, 0x71374491, 0xb5c0fbcf, 0xe9b5dba5, 0x3956c25b, 0x59f111f1, 0x923f82a4, 0xab1c5ed5, 0xd807aa98,
    0x12835b01, 0x243185be, 0x550c7dc3, 0x72be5d74, 0x80deb1fe, 0x9bdc06a7, 0xc19bf174, 0xe49b69c1, 0xefbe4786,
    0x0fc19dc6, 0x240ca1cc, 0x2de92c6f, 0x4a7484aa, 0x5cb0a9dc, 0x76f988da, 0x983e5152, 0xa831c66d, 0xb00327c8,
    0xbf597fc7, 0xc6e00bf3, 0xd5a79147, 0x06ca6351, 0x14292967, 0x27b70a85, 0x2e1b2138, 0x4d2c6dfc, 0x53380d13,
    0x650a7354, 0x766a0abb, 0x81c2c92e, 0x92722c85, 0xa2bfe8a1, 0xa81a664b, 0xc24b8b70, 0xc76c51a3, 0xd192e819,
    0xd6990624, 0xf40e3585, 0x106aa070, 0x19a4c116, 0x1e376c08, 0x2748774c, 0x34b0bcb5, 0x391c0cb3, 0x4ed8aa4a,
    0x5b9cca4f, 0x682e6ff3, 0x748f82ee, 0x78a5636f, 0x84c87814, 0x8cc70208, 0x90befffa, 0xa4506ceb, 0xbef9a3f7,
    0xc67178f2]

/-- The eight words of the hash, or of a round. -/
structure Registers where
  a : Nat
  b : Nat
  c : Nat
  d : Nat
  e : Nat
  f : Nat
  g : Nat
  h : Nat

def initialRegisters : Registers :=
  ⟨0x6a09e667, 0xbb67ae85, 0x3c6ef372, 0xa54ff53a, 0x510e527f, 0x9b05688c, 0x1f83d9ab, 0x5be0cd19⟩

/-- The words of the schedule, the last one first. -/
def schedule : Nat → List Nat → List Nat
  | 0, words => words
  | rounds + 1, words =>
    let late := words.getD 1 0
    let early := words.getD 14 0
    let next := word (words.getD 15 0 + words.getD 6 0 +
      (rotateRight 7 early ^^^ rotateRight 18 early ^^^ early >>> 3) +
      (rotateRight 17 late ^^^ rotateRight 19 late ^^^ late >>> 10))
    schedule rounds (next :: words)

def round (registers : Registers) (constant scheduled : Nat) : Registers :=
  let choice := (registers.e &&& registers.f) ^^^ ((4294967295 - registers.e) &&& registers.g)
  let majority := (registers.a &&& registers.b) ^^^ (registers.a &&& registers.c) ^^^ (registers.b &&& registers.c)
  let first := registers.h + choice + constant + scheduled +
    (rotateRight 6 registers.e ^^^ rotateRight 11 registers.e ^^^ rotateRight 25 registers.e)
  let second := majority + (rotateRight 2 registers.a ^^^ rotateRight 13 registers.a ^^^ rotateRight 22 registers.a)
  ⟨word (first + second), registers.a, registers.b, registers.c, word (registers.d + first), registers.e,
    registers.f, registers.g⟩

def rounds : Registers → List Nat → List Nat → Registers
  | registers, constant :: constants, scheduled :: words =>
    rounds (round registers constant scheduled) constants words
  | registers, _, _ => registers

/-- The registers after a block of sixteen words. -/
def compress (registers : Registers) (block : List Nat) : Registers :=
  let result := rounds registers roundConstants (schedule 48 block.reverse).reverse
  ⟨word (registers.a + result.a), word (registers.b + result.b), word (registers.c + result.c),
    word (registers.d + result.d), word (registers.e + result.e), word (registers.f + result.f),
    word (registers.g + result.g), word (registers.h + result.h)⟩

end rounds

section digest

/-- The bytes with the padding that fills the last block. -/
def padded (bytes : List UInt8) : List UInt8 :=
  bytes ++ 0x80 :: List.replicate ((119 - bytes.length % 64) % 64) 0 ++
    wordBytes (bytes.length * 8 / 4294967296) ++ wordBytes (bytes.length * 8)

def compressAll : Nat → Registers → List Nat → Registers
  | 0, registers, _ => registers
  | blocks + 1, registers, words => compressAll blocks (compress registers (words.take 16)) (words.drop 16)

/-- `crypto.subtle.digest("SHA-256", bytes)`. -/
def sha256 (bytes : List UInt8) : Vector UInt8 32 :=
  let words := bytesWords (padded bytes)
  let hash := compressAll (words.length / 16) initialRegisters words
  ⟨([hash.a, hash.b, hash.c, hash.d, hash.e, hash.f, hash.g, hash.h].flatMap wordBytes).toArray, rfl⟩

/-- The digest of `abc`. -/
example : (sha256 [97, 98, 99]).toList =
    [186, 120, 22, 191, 143, 1, 207, 234, 65, 65, 64, 222, 93, 174, 34, 35, 176, 3, 97, 163, 150, 23, 122, 156,
     180, 16, 255, 97, 242, 0, 21, 173] := by
  decide +kernel

end digest

end sha2
