/-!
# Texts that are no JSON

What can be wrong with a text that should write one JSON value, and how that is put in words.
-/

namespace SolidityRepl.Json

/-- What is wrong with a text that writes no value. -/
inductive Fault where
  | noValue
  | leftOver
  | tooDeep
  /-- A name that is not spelled out. -/
  | misspelled (name : String)
  /-- A whole number with too many digits. -/
  | longNumber (digits : Nat)
  | openText
  | openEscape
  | unknownEscape
  | openUnit
  | badUnit
  | emptyItem
  | badItemEnd
  | badKey
  | noColon
  | badFieldEnd
  deriving DecidableEq, Repr

def Fault.message : Fault → String
  | .noValue => "Expected object or value"
  | .leftOver => "Trailing data"
  | .tooDeep => "Reached object decoding depth limit"
  | .misspelled name => "Unexpected character found when decoding '" ++ name ++ "'"
  | .longNumber digits =>
    "Exceeds the limit (4300 digits) for integer string conversion: value has " ++
      toString digits ++ " digits; use sys.set_int_max_str_digits() to increase the limit"
  | .openText => "Unmatched '\"' when decoding 'string'"
  | .openEscape => "Unterminated escape sequence when decoding 'string'"
  | .unknownEscape => "Unrecognized escape sequence when decoding 'string'"
  | .openUnit => "Unterminated unicode escape sequence when decoding 'string'"
  | .badUnit => "Unexpected character in unicode escape sequence when decoding 'string'"
  | .emptyItem => "Unexpected character found when decoding array value (1)"
  | .badItemEnd => "Unexpected character found when decoding array value (2)"
  | .badKey => "Key name of object must be 'string' when decoding 'object'"
  | .noColon => "No ':' found when decoding object value"
  | .badFieldEnd => "Unexpected character in found when decoding object value"

end SolidityRepl.Json
