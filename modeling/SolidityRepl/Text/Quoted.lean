import SolidityRepl.Text.Digit
import SolidityRepl.Text.Printable

/-!
# Quoted forms

How texts and byte strings are shown inside a message: between single quotes, or between double
quotes if there is a single quote inside and no double one. The quote, the backslash and three
controls are escaped by a backslash, whatever is not printable by its number.
-/

namespace SolidityRepl.Text

def hexPadded : Nat → Nat → List Char
  | 0, _ => []
  | width + 1, n => hexPadded width (n / 16) ++ [hexDigit (n % 16)]

/-- The quote that needs the fewest escapes. -/
def quoteFor (cs : List Char) : Char :=
  if cs.contains '\'' && !cs.contains '"' then '"' else '\''

def escapeIn (quote c : Char) : List Char :=
  if c == quote || c == '\\' then ['\\', c]
  else if c == '\n' then ['\\', 'n']
  else if c == '\r' then ['\\', 'r']
  else if c == '\t' then ['\\', 't']
  else if isPrintable c then [c]
  else if c.toNat < 0x100 then '\\' :: 'x' :: hexPadded 2 c.toNat
  else if c.toNat < 0x10000 then '\\' :: 'u' :: hexPadded 4 c.toNat
  else '\\' :: 'U' :: hexPadded 8 c.toNat

def quotedChars (cs : List Char) : List Char :=
  let quote := quoteFor cs
  quote :: cs.flatMap (escapeIn quote) ++ [quote]

def quoted (s : String) : String := String.ofList (quotedChars s.toList)

/-- One byte of a quoted byte string: as its ASCII character where that is printable. -/
def escapeByteIn (quote : Char) (b : UInt8) : List Char :=
  let c := Char.ofNat b.toNat
  if b.toNat < 0x7f then
    if c.toNat < 0x20 && !(c == '\n' || c == '\r' || c == '\t') then
      '\\' :: 'x' :: hexPadded 2 b.toNat
    else escapeIn quote c
  else '\\' :: 'x' :: hexPadded 2 b.toNat

/-- A byte string between quotes, marked by a `b`. -/
def quotedBytes (bs : List UInt8) : String :=
  let quote := quoteFor (bs.map fun b => Char.ofNat b.toNat)
  String.ofList ('b' :: quote :: bs.flatMap (escapeByteIn quote) ++ [quote])

end SolidityRepl.Text
