import SolidityRepl.Bytes

/-!
# Instructions

The instructions that the simulated machine knows, and where in a code they stand: what follows a
push is data, not an instruction.
-/

namespace SolidityRepl.Evm

inductive Opcode where
  | stop
  | add
  | mul
  | sub
  | shr
  | caller
  | callDataLoad
  | callDataSize
  | codeCopy
  | pop
  | mstore
  | mstore8
  | sload
  | sstore
  | jump
  | jumpIf
  | jumpDest
  | push (width : Nat)
  | dup (depth : Nat)
  | ret
  | revert
  deriving DecidableEq, Repr

namespace Opcode

def ofByte? (b : UInt8) : Option Opcode :=
  let n := b.toNat
  if 0x5f ≤ n && n ≤ 0x7f then some (.push (n - 0x5f))
  else if 0x80 ≤ n && n ≤ 0x8f then some (.dup (n - 0x7f))
  else match n with
    | 0x00 => some .stop
    | 0x01 => some .add
    | 0x02 => some .mul
    | 0x03 => some .sub
    | 0x1c => some .shr
    | 0x33 => some .caller
    | 0x35 => some .callDataLoad
    | 0x36 => some .callDataSize
    | 0x39 => some .codeCopy
    | 0x50 => some .pop
    | 0x52 => some .mstore
    | 0x53 => some .mstore8
    | 0x54 => some .sload
    | 0x55 => some .sstore
    | 0x56 => some .jump
    | 0x57 => some .jumpIf
    | 0x5b => some .jumpDest
    | 0xf3 => some .ret
    | 0xfd => some .revert
    | _ => none

/-- The bytes of data behind an instruction. -/
def width : Opcode → Nat
  | .push n => n
  | _ => 0

/-- The gas that an instruction takes, whatever it is used on. -/
def cost : Opcode → Nat
  | .stop | .ret | .revert | .sload | .sstore => 0
  | .jumpDest => 1
  | .caller | .callDataSize | .pop | .push 0 => 2
  | .mul => 5
  | .jump => 8
  | .jumpIf => 10
  | _ => 3

def name : Opcode → String
  | .stop => "STOP"
  | .add => "ADD"
  | .mul => "MUL"
  | .sub => "SUB"
  | .shr => "SHR"
  | .caller => "CALLER"
  | .callDataLoad => "CALLDATALOAD"
  | .callDataSize => "CALLDATASIZE"
  | .codeCopy => "CODECOPY"
  | .pop => "POP"
  | .mstore => "MSTORE"
  | .mstore8 => "MSTORE8"
  | .sload => "SLOAD"
  | .sstore => "SSTORE"
  | .jump => "JUMP"
  | .jumpIf => "JUMPI"
  | .jumpDest => "JUMPDEST"
  | .push n => "PUSH" ++ toString n
  | .dup n => "DUP" ++ toString n
  | .ret => "RETURN"
  | .revert => "REVERT"

end Opcode

/-- The bytes of data behind the instruction of a byte. -/
def dataBehind (b : UInt8) : Nat := ((Opcode.ofByte? b).map Opcode.width).getD 0

/-- Whether an instruction starts at a place, if the first `skip` bytes are data. -/
def startsAfter (skip : Nat) : Bytes → Nat → Bool
  | [], _ => false
  | b :: rest, place =>
    match skip, place with
    | 0, 0 => true
    | _, 0 => false
    | 0, place + 1 => startsAfter (dataBehind b) rest place
    | skip + 1, place + 1 => startsAfter skip rest place

/-- Whether an instruction starts at a place of a code. -/
def startsInstruction (code : Bytes) (place : Nat) : Bool := startsAfter 0 code place

end SolidityRepl.Evm
