import SolidityRepl.Text.Utf8
import SolidityRepl.Text.Digit

/-!
# Bytes

Byte strings are written in hexadecimal, two digits a byte, and stand for numbers with the most
significant byte first.
-/

namespace SolidityRepl.Bytes

open Text

def hexDigits (bytes : Bytes) : List Char :=
  bytes.flatMap fun b => [hexDigit (b.toNat / 16), hexDigit (b.toNat % 16)]

def hex (bytes : Bytes) : String := String.ofList (hexDigits bytes)

def prefixedHex (bytes : Bytes) : String := "0x" ++ bytes.hex

/-- White space that may stand between bytes. -/
def isGap (c : Char) : Bool := ('\t' ≤ c && c ≤ '\r') || c == ' '

/-- The bytes of a text of digits with gaps between bytes. -/
def ofHexDigits? : List Char → Option Bytes
  | [] => some []
  | a :: rest =>
    if isGap a then ofHexDigits? rest
    else match rest with
      | [] => none
      | b :: rest => do
        let high ← hexValue? a
        let low ← hexValue? b
        let more ← ofHexDigits? rest
        some (UInt8.ofNat (high * 16 + low) :: more)

def ofHex? (s : String) : Option Bytes := ofHexDigits? s.toList

/-- The bytes of a text of digits, marked or not. -/
def ofPrefixedHex? (s : String) : Option Bytes :=
  ofHexDigits? (("0x".toList.isPrefixOf? s.toList).getD s.toList)

theorem isGap_hexDigit {n : Nat} (h : n < 16) : isGap (hexDigit n) = false := by
  have : ∀ k : Fin 16, isGap (hexDigit k.val) = false := by decide
  exact this ⟨n, h⟩

theorem ofHexDigits?_hexDigits (bytes : Bytes) : ofHexDigits? (hexDigits bytes) = some bytes := by
  induction bytes with
  | nil => rfl
  | cons b rest ih =>
    have hb : b.toNat < 256 := b.toNat_lt
    have h1 : b.toNat / 16 < 16 := by omega
    have h2 : b.toNat % 16 < 16 := by omega
    have h3 : b.toNat / 16 * 16 + b.toNat % 16 = b.toNat := by omega
    have ih' : ofHexDigits? (rest.flatMap fun b => [hexDigit (b.toNat / 16),
        hexDigit (b.toNat % 16)]) = some rest := ih
    have h4 : UInt8.ofNat (b.toNat / 16 * 16 + b.toNat % 16) = b := by simp [h3]
    simp only [hexDigits, List.flatMap_cons, List.cons_append, List.nil_append, ofHexDigits?,
      isGap_hexDigit h1, hexValue?_hexDigit h1, hexValue?_hexDigit h2, ih', h4,
      Option.bind_eq_bind, Option.bind_some, Bool.false_eq_true, if_false]

theorem ofHex?_hex (bytes : Bytes) : ofHex? bytes.hex = some bytes := by
  simp [ofHex?, hex, ofHexDigits?_hexDigits]

def toNat (bytes : Bytes) : Nat := bytes.foldl (fun n b => n * 256 + b.toNat) 0

/-- The lowest `width` bytes of a number. -/
def ofNat : Nat → Nat → Bytes
  | 0, _ => []
  | width + 1, n => ofNat width (n / 256) ++ [UInt8.ofNat n]

theorem length_ofNat (width n : Nat) : (ofNat width n).length = width := by
  induction width generalizing n with
  | zero => rfl
  | succ w ih => simp [ofNat, ih]

theorem toNat_append_singleton (bytes : Bytes) (b : UInt8) :
    toNat (bytes ++ [b]) = toNat bytes * 256 + b.toNat := by
  simp [toNat, List.foldl_append]

theorem toNat_ofNat (width n : Nat) : toNat (ofNat width n) = n % Nat.pow 256 width := by
  induction width generalizing n with
  | zero =>
    show 0 = n % 1
    rw [Nat.mod_one]
  | succ w ih =>
    have h : n % Nat.pow 256 (w + 1) = n % 256 + 256 * (n / 256 % Nat.pow 256 w) := by
      show n % (Nat.pow 256 w * 256) = _
      rw [Nat.mul_comm (Nat.pow 256 w) 256, Nat.mod_mul]
    have h8 : (UInt8.ofNat n).toNat = n % 256 := UInt8.toNat_ofNat'
    rw [ofNat, toNat_append_singleton, ih, h8, h]
    omega

/-- The fewest bytes that a number needs, none for zero. -/
def shortest (n : Nat) : Bytes :=
  if _h : n = 0 then [] else shortest (n / 256) ++ [UInt8.ofNat n]
  termination_by n
  decreasing_by omega

end SolidityRepl.Bytes
