import SolidityRepl.Evm.Opcode
import SolidityRepl.Abi.Address
import SolidityRepl.Text.Quoted

/-!
# The simulated machine

Code runs on a stack of numbers below `2 ^ 256`, a memory of bytes and the storage of one account.
It ends by returning bytes, by reverting with bytes, or in a trap; running off the end of the code
returns nothing. Memory is paid for by the word when it is first touched.
-/

namespace SolidityRepl.Evm

/-- Numbers by number; what is not there is zero. -/
abbrev Storage := List (Nat × Nat)

def Storage.read (storage : Storage) (slot : Nat) : Nat := (storage.lookup slot).getD 0

def Storage.write (storage : Storage) (slot value : Nat) : Storage :=
  (slot, value) :: storage.filter fun e => e.1 != slot

/-- The number of words: all arithmetic is modulo this. -/
def modulus : Nat := Nat.pow 2 256

inductive Trap where
  | invalidOpcode (byte : UInt8) (place : Nat)
  | badDestination
  | destinationInData
  | emptyStack
  | shortStack (wanted had : Nat)
  | nothingToCopy (depth : Nat)
  | fullStack
  | outOfGas (needed remaining : Nat) (what : String)
  | longCode (size : Nat)
  | reservedCode
  deriving DecidableEq, Repr

def Trap.message : Trap → String
  | .invalidOpcode byte place =>
    "Invalid opcode 0x" ++ String.ofList (Nat.toDigits 16 byte.toNat) ++ " @ " ++ toString place
  | .badDestination => "Invalid Jump Destination"
  | .destinationInData => "Jump resulted in invalid instruction"
  | .emptyStack => "Wanted 1 stack item, had none"
  | .shortStack wanted had =>
    "Wanted " ++ toString wanted ++ " stack items, only had " ++ toString had
  | .outOfGas needed remaining what =>
    "Out of gas: Needed " ++ toString needed ++ " - Remaining " ++ toString remaining ++
      " - Reason: " ++ what
  | .nothingToCopy depth => "Insufficient stack items for DUP" ++ toString depth
  | .fullStack => "Stack limit reached"
  | .longCode size =>
    "Contract code size exceeds EIP170 limit of 24576.  Got code of size: " ++ toString size
  | .reservedCode => "Contract code begins with EIP3541 reserved byte '0xEF'."

inductive Outcome where
  | returned (data : Bytes)
  | reverted (data : Bytes)
  | trapped (trap : Trap)
  deriving DecidableEq, Repr

structure Message where
  sender : Address
  code : Bytes
  data : Bytes

/-- The state of running code. `memory` has been written, and `words` of it have been paid for. -/
structure Machine where
  place : Nat := 0
  stack : List Nat := []
  memory : Bytes := []
  words : Nat := 0
  storage : Storage
  /-- The storage before the code was run. -/
  original : Storage
  /-- The slots that have been read or written. -/
  warm : List Nat := []
  gas : Nat

/-- What a step leads to: more code, or the end. -/
inductive Next where
  | on (m : Machine)
  | over (outcome : Outcome) (m : Machine)

namespace Machine

/-- Bytes from a place on, with zeros where there are none. -/
def slice (bytes : Bytes) (start size : Nat) : Bytes :=
  let found := (bytes.drop start).take size
  found ++ List.replicate (size - found.length) 0

/-- Bytes put at a place of a memory. -/
def patched (memory : Bytes) (start : Nat) (data : Bytes) : Bytes :=
  if data.isEmpty then memory
  else slice memory 0 start ++ data ++ memory.drop (start + data.length)

def trap (m : Machine) (t : Trap) : Next := .over (.trapped t) m

def pay (m : Machine) (fee : Nat) (what : String) (next : Machine → Next) : Next :=
  if m.gas < fee then m.trap (.outOfGas fee m.gas what) else next { m with gas := m.gas - fee }

def memoryCost (words : Nat) : Nat := 3 * words + words * words / 512

/-- The gas for a slot that is used for the first time. -/
def coldCost : Nat := 2100

/-- The gas for a slot that has been used before. -/
def warmCost : Nat := 100

/-- The gas for a number written to a slot: most for a slot that was zero, little for one that has
the number already or was written before. -/
def writeCost (m : Machine) (slot value : Nat) : Nat :=
  let current := m.storage.read slot
  let original := m.original.read slot
  if current = value || original ≠ current then warmCost
  else if original = 0 then 20000 else 2900

def visit (m : Machine) (slot coldFee warmFee : Nat) (what : String) (next : Machine → Next) :
    Next :=
  let fee := if m.warm.contains slot then warmFee else coldFee
  m.pay fee what fun m => next { m with warm := slot :: m.warm }

def wordsOf (size : Nat) : Nat := (size + 31) / 32

/-- Memory is touched, and paid for as far as it is new. -/
def touch (m : Machine) (start size : Nat) (next : Machine → Next) : Next :=
  let words := wordsOf (start + size)
  if size = 0 || words ≤ m.words then next m
  else
    m.pay (memoryCost words - memoryCost m.words)
      ("Expanding memory " ++ toString (32 * m.words) ++ " -> " ++ toString (32 * words))
      fun m => next { m with words }

def go (m : Machine) (stack : List Nat) : Next := .on { m with place := m.place + 1, stack }

def stackLimit : Nat := 1024

def push (m : Machine) (value : Nat) : Next :=
  if m.stack.length < stackLimit then m.go (value :: m.stack) else m.trap .fullStack

/-- The next instruction, with another stack and bytes written to memory. -/
def store (m : Machine) (stack : List Nat) (start : Nat) (data : Bytes) : Next :=
  .on { m with place := m.place + 1, stack, memory := patched m.memory start data }

/-- A jump to a place where an instruction to land on stands. -/
def jumpTo (m : Machine) (code : Bytes) (place : Nat) (stack : List Nat) : Next :=
  if code[place]? != some 0x5b then m.trap .badDestination
  else if !startsInstruction code place then m.trap .destinationInData
  else .on { m with place, stack }

def one (m : Machine) (f : Nat → List Nat → Next) : Next :=
  match m.stack with
  | a :: rest => f a rest
  | [] => m.trap .emptyStack

def oneByOne (m : Machine) (f : Nat → Nat → List Nat → Next) : Next :=
  match m.stack with
  | a :: b :: rest => f a b rest
  | _ => m.trap .emptyStack

def two (m : Machine) (f : Nat → Nat → List Nat → Next) : Next :=
  match m.stack with
  | a :: b :: rest => f a b rest
  | short => m.trap (.shortStack 2 short.length)

def three (m : Machine) (f : Nat → Nat → Nat → List Nat → Next) : Next :=
  match m.stack with
  | a :: b :: c :: rest => f a b c rest
  | short => m.trap (.shortStack 3 short.length)

def perform (msg : Message) (m : Machine) (op : Opcode) : Next :=
  match op with
  | .stop => .over (.returned []) m
  | .add => m.two fun a b rest => m.go ((a + b) % modulus :: rest)
  | .mul => m.two fun a b rest => m.go (a * b % modulus :: rest)
  | .sub => m.two fun a b rest => m.go ((a + modulus - b) % modulus :: rest)
  | .shr => m.two fun a b rest => m.go ((if a < 256 then b / Nat.pow 2 a else 0) :: rest)
  | .caller => m.push (Bytes.toNat msg.sender.bytes)
  | .callDataLoad => m.one fun a rest => m.go (Bytes.toNat (slice msg.data a 32) :: rest)
  | .callDataSize => m.push msg.data.length
  | .codeCopy => m.three fun target start size rest =>
    m.touch target size fun m => m.pay (3 * wordsOf size) op.name fun m =>
      m.store rest target (slice msg.code start size)
  | .pop => m.one fun _ rest => m.go rest
  | .mstore => m.oneByOne fun target value rest =>
    m.touch target 32 fun m => m.store rest target (Bytes.ofNat 32 value)
  | .mstore8 => m.oneByOne fun target value rest =>
    m.touch target 1 fun m => m.store rest target (Bytes.ofNat 1 value)
  | .sload => m.one fun slot rest =>
    m.visit slot coldCost warmCost op.name fun m => m.go (m.storage.read slot :: rest)
  | .sstore => m.two fun slot value rest =>
    let fee := m.writeCost slot value
    m.visit slot (coldCost + fee) fee op.name fun m =>
      .on { m with place := m.place + 1, stack := rest, storage := m.storage.write slot value }
  | .jump => m.one fun place rest => m.jumpTo msg.code place rest
  | .jumpIf => m.two fun place condition rest =>
    if condition = 0 then m.go rest else m.jumpTo msg.code place rest
  | .jumpDest => m.go m.stack
  | .push width =>
    { m with place := m.place + width }.push (Bytes.toNat (slice msg.code (m.place + 1) width))
  | .dup depth =>
    match m.stack[depth - 1]? with
    | some a => m.push a
    | none => m.trap (.nothingToCopy depth)
  | .ret => m.two fun start size _ =>
    m.touch start size fun m => .over (.returned (slice m.memory start size)) m
  | .revert => m.two fun start size _ =>
    m.touch start size fun m => .over (.reverted (slice m.memory start size)) m

def step (msg : Message) (m : Machine) : Next :=
  match msg.code[m.place]? with
  | none => .over (.returned []) m
  | some byte =>
    match Opcode.ofByte? byte with
    | none => m.trap (.invalidOpcode byte m.place)
    | some op =>
      if m.gas < op.cost then m.trap (.outOfGas op.cost m.gas op.name)
      else perform msg { m with gas := m.gas - op.cost } op

/-- Instruction after instruction, as many as `steps` at most, and the state at the end. -/
def runFor (msg : Message) : Nat → Machine → Outcome × Machine
  | 0, m => (.trapped (.outOfGas 1 m.gas "STOP"), m)
  | steps + 1, m =>
    match m.step msg with
    | .on m => runFor msg steps m
    | .over outcome m => (outcome, m)

/-- Code run to its end. Every instruction but a last one takes some gas, so gas bounds the steps.
-/
def run (msg : Message) (storage : Storage) (gas : Nat) : Outcome × Machine :=
  runFor msg (gas + 1) { storage, original := storage, gas }

end Machine

end SolidityRepl.Evm
