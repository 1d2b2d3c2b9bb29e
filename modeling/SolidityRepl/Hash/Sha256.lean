import SolidityRepl.Bytes

/-!
# SHA-256

The hash that names stored values: the message is padded to blocks of sixteen words, and each block
is mixed into eight words in sixty-four rounds.
-/

namespace SolidityRepl.Hash

def roundWords : List UInt32 :=
  [0x428a2f98, 0x71374491, 0xb5c0fbcf, 0xe9b5dba5, 0x3956c25b, 0x59f111f1,
   0x923f82a4, 0xab1c5ed5, 0xd807aa98, 0x12835b01, 0x243185be, 0x550c7dc3,
   0x72be5d74, 0x80deb1fe, 0x9bdc06a7, 0xc19bf174, 0xe49b69c1, 0xefbe4786,
   0x0fc19dc6, 0x240ca1cc, 0x2de92c6f, 0x4a7484aa, 0x5cb0a9dc, 0x76f988da,
   0x983e5152, 0xa831c66d, 0xb00327c8, 0xbf597fc7, 0xc6e00bf3, 0xd5a79147,
   0x06ca6351, 0x14292967, 0x27b70a85, 0x2e1b2138, 0x4d2c6dfc, 0x53380d13,
   0x650a7354, 0x766a0abb, 0x81c2c92e, 0x92722c85, 0xa2bfe8a1, 0xa81a664b,
   0xc24b8b70, 0xc76c51a3, 0xd192e819, 0xd6990624, 0xf40e3585, 0x106aa070,
   0x19a4c116, 0x1e376c08, 0x2748774c, 0x34b0bcb5, 0x391c0cb3, 0x4ed8aa4a,
   0x5b9cca4f, 0x682e6ff3, 0x748f82ee, 0x78a5636f, 0x84c87814, 0x8cc70208,
   0x90befffa, 0xa4506ceb, 0xbef9a3f7, 0xc67178f2]

/-- A word turned to the right. -/
def rotated (n : UInt32) (w : UInt32) : UInt32 := (w >>> n) ||| (w <<< (32 - n))

/-- The eight words that are mixed. -/
structure Mix where
  a : UInt32
  b : UInt32
  c : UInt32
  d : UInt32
  e : UInt32
  f : UInt32
  g : UInt32
  h : UInt32

def Mix.first : Mix :=
  ⟨0x6a09e667, 0xbb67ae85, 0x3c6ef372, 0xa54ff53a,
   0x510e527f, 0x9b05688c, 0x1f83d9ab, 0x5be0cd19⟩

/-- One round, with a word of the message and a word of the round. -/
def Mix.round (m : Mix) (word constant : UInt32) : Mix :=
  let s1 := rotated 6 m.e ^^^ rotated 11 m.e ^^^ rotated 25 m.e
  let choice := (m.e &&& m.f) ^^^ ((~~~ m.e) &&& m.g)
  let t1 := m.h + s1 + choice + constant + word
  let s0 := rotated 2 m.a ^^^ rotated 13 m.a ^^^ rotated 22 m.a
  let majority := (m.a &&& m.b) ^^^ (m.a &&& m.c) ^^^ (m.b &&& m.c)
  ⟨t1 + s0 + majority, m.a, m.b, m.c, m.d + t1, m.e, m.f, m.g⟩

def Mix.add (m n : Mix) : Mix :=
  ⟨m.a + n.a, m.b + n.b, m.c + n.c, m.d + n.d, m.e + n.e, m.f + n.f, m.g + n.g, m.h + n.h⟩

def Mix.words (m : Mix) : List UInt32 := [m.a, m.b, m.c, m.d, m.e, m.f, m.g, m.h]

/-- The message with a one bit, zeros, and its length in bits behind it. -/
def padded (message : Bytes) : Bytes :=
  let n := message.length
  message ++ 0x80 :: List.replicate ((119 - n % 64) % 64) 0 ++ Bytes.ofNat 8 (8 * n)

def wordsOf : Bytes → List UInt32
  | a :: b :: c :: d :: rest =>
    (a.toUInt32 <<< 24 ||| b.toUInt32 <<< 16 ||| c.toUInt32 <<< 8 ||| d.toUInt32) :: wordsOf rest
  | _ => []

/-- The words for all rounds from those of a block, the last one first. -/
def schedule : Nat → List UInt32 → List UInt32
  | 0, words => words
  | more + 1, words =>
    let word (i : Nat) := (words[i]?).getD 0
    let s0 := rotated 7 (word 14) ^^^ rotated 18 (word 14) ^^^ (word 14 >>> 3)
    let s1 := rotated 17 (word 1) ^^^ rotated 19 (word 1) ^^^ (word 1 >>> 10)
    schedule more ((word 15 + s0 + word 6 + s1) :: words)

def mixIn (m : Mix) (block : Bytes) : Mix :=
  let words := (schedule 48 (wordsOf block).reverse).reverse
  m.add ((words.zip roundWords).foldl (fun m (w, k) => m.round w k) m)

/-- The hash of the blocks of a message, of which there are `n`. -/
def mixAll : Nat → Mix → Bytes → Mix
  | 0, m, _ => m
  | n + 1, m, message => mixAll n (mixIn m (message.take 64)) (message.drop 64)

def sha256 (message : Bytes) : Bytes :=
  let message := padded message
  (mixAll (message.length / 64) Mix.first message).words.flatMap fun w => Bytes.ofNat 4 w.toNat

end SolidityRepl.Hash
