import SolidityRepl.Abi.Decoder
import SolidityRepl.Text.Number

/-!
# Reasons of reverts

What a call leaves behind when it reverts: a text in words of its own, or the number of a panic.
-/

namespace SolidityRepl.Abi

def errorSelector : Bytes := [0x08, 0xc3, 0x79, 0xa0]

def panicSelector : Bytes := [0x4e, 0x48, 0x7b, 0x71]

/-- Bytes that are no encoding say nothing; other faults stay. -/
def unlessUndecodable (reason : Except Failure (Option String)) : Except Failure (Option String) :=
  match reason with
  | .error e => if e.isUndecodable then .ok none else .error e
  | reason => reason

def errorText (data : Bytes) : Except Failure (Option String) := do
  match ← decodeAll [.string] data with
  | [.text s] => return some s
  | _ => return none

def panicText (data : Bytes) : Except Failure (Option String) := do
  match ← decodeAll [.uint 256] data with
  | [.int n] => return some ("Panic(" ++ Text.hexShown n ++ ")")
  | _ => return none

def revertReason (data : Bytes) : Except Failure (Option String) :=
  if data.take 4 == errorSelector then unlessUndecodable (errorText (data.drop 4))
  else if data.take 4 == panicSelector then unlessUndecodable (panicText (data.drop 4))
  else .ok none

end SolidityRepl.Abi
