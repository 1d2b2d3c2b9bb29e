import SolidityRepl.Bytes

/-!
# Keccak-256

The hash that names functions and accounts: a sponge over twenty-five lanes of sixty-four bits,
which takes in seventeen lanes at a time.
-/

namespace SolidityRepl.Hash

/-- Twenty-five lanes, row by row. -/
abbrev Lanes := List UInt64

/-- A lane by its column and row, both counted around. -/
def lane (a : Lanes) (x y : Nat) : UInt64 := (a[x % 5 + 5 * (y % 5)]?).getD 0

/-- Lanes given by column and row. -/
def lanesOf (f : Nat → Nat → UInt64) : Lanes :=
  (List.range 25).map fun i => f (i % 5) (i / 5)

/-- A lane turned to the left. -/
def turned (n : UInt64) (w : UInt64) : UInt64 := if n = 0 then w else (w <<< n) ||| (w >>> (64 - n))

def turns : List UInt64 :=
  [0, 1, 62, 28, 27, 36, 44, 6, 55, 20, 3, 10, 43,
   25, 39, 41, 45, 15, 21, 8, 18, 2, 61, 56, 14]

def roundLanes : List UInt64 :=
  [0x0000000000000001, 0x0000000000008082, 0x800000000000808a, 0x8000000080008000,
   0x000000000000808b, 0x0000000080000001, 0x8000000080008081, 0x8000000000008009,
   0x000000000000008a, 0x0000000000000088, 0x0000000080008009, 0x000000008000000a,
   0x000000008000808b, 0x800000000000008b, 0x8000000000008089, 0x8000000000008003,
   0x8000000000008002, 0x8000000000000080, 0x000000000000800a, 0x800000008000000a,
   0x8000000080008081, 0x8000000000008080, 0x0000000080000001, 0x8000000080008008]

/-- Every lane is mixed with the columns beside it. -/
def mixColumns (a : Lanes) : Lanes :=
  let column := (List.range 5).map fun x =>
    lane a x 0 ^^^ lane a x 1 ^^^ lane a x 2 ^^^ lane a x 3 ^^^ lane a x 4
  let mixed (x : Nat) := (column[x % 5]?).getD 0
  lanesOf fun x y => lane a x y ^^^ mixed (x + 4) ^^^ turned 1 (mixed (x + 1))

/-- Every lane is turned and takes another's place. -/
def scatter (a : Lanes) : Lanes :=
  let turnedLanes := (a.zip turns).map fun (w, n) => turned n w
  lanesOf fun x y => lane turnedLanes (x + 3 * y) x

/-- Every lane is mixed with the two behind it in its row. -/
def mixRows (a : Lanes) : Lanes :=
  lanesOf fun x y => lane a x y ^^^ ((~~~ lane a (x + 1) y) &&& lane a (x + 2) y)

def lanesRound (a : Lanes) (constant : UInt64) : Lanes :=
  match mixRows (scatter (mixColumns a)) with
  | first :: rest => (first ^^^ constant) :: rest
  | [] => []

def permuted (a : Lanes) : Lanes := roundLanes.foldl lanesRound a

/-- The bytes that are taken in at a time. -/
def rate : Nat := 136

/-- The message with a one bit, zeros, and a one bit behind it. -/
def spongePadded (message : Bytes) : Bytes :=
  match rate - message.length % rate with
  | 1 => message ++ [0x81]
  | n => message ++ 0x01 :: List.replicate (n - 2) 0 ++ [0x80]

/-- The lanes of some bytes, of which there are `n` times eight. -/
def lanesOfBytes : Nat → Bytes → Lanes
  | 0, _ => []
  | n + 1, bytes =>
    UInt64.ofNat (Bytes.toNat (bytes.take 8).reverse) :: lanesOfBytes n (bytes.drop 8)

/-- Bytes taken in, of which there are `n` times the rate. -/
def absorb : Nat → Lanes → Bytes → Lanes
  | 0, a, _ => a
  | n + 1, a, bytes =>
    let block := lanesOfBytes 17 (bytes.take rate) ++ List.replicate 8 0
    absorb n (permuted ((a.zip block).map fun (x, y) => x ^^^ y)) (bytes.drop rate)

def keccak256 (message : Bytes) : Bytes :=
  let message := spongePadded message
  let lanes := absorb (message.length / rate) (List.replicate 25 0) message
  (lanes.take 4).flatMap fun w => (Bytes.ofNat 8 w.toNat).reverse

end SolidityRepl.Hash
