import Mathlib.Data.List.Induction
import SolidityRepl.Bytes

/-!
# Numbers as bytes

The bytes of a number from above and from below: what the higher bytes of a number say alone, and
when they are all the same.
-/

namespace SolidityRepl.Bytes

theorem pow_pos (w : Nat) : 0 < Nat.pow 256 w := Nat.pow_pos (by decide)

theorem pow_succ (w : Nat) : Nat.pow 256 (w + 1) = 256 * Nat.pow 256 w := Nat.mul_comm _ _

theorem pow_add (a b : Nat) : Nat.pow 256 (a + b) = Nat.pow 256 a * Nat.pow 256 b :=
  Nat.pow_add 256 a b

theorem toNat_ofNat_of_lt {w n : Nat} (small : n < Nat.pow 256 w) : toNat (ofNat w n) = n := by
  rw [toNat_ofNat, Nat.mod_eq_of_lt small]

/-- Bytes are those of the number that they stand for. -/
theorem ofNat_toNat (bytes : Bytes) : ofNat bytes.length (toNat bytes) = bytes := by
  induction bytes using List.reverseRecOn with
  | nil => rfl
  | append_singleton bytes b ih =>
    have small : b.toNat < 256 := b.toNat_lt
    have upper : (toNat bytes * 256 + b.toNat) / 256 = toNat bytes := by omega
    have lowest : UInt8.ofNat (toNat bytes * 256 + b.toNat) = b := by
      apply UInt8.toNat_inj.mp
      rw [UInt8.toNat_ofNat']
      omega
    rw [List.length_append, toNat_append_singleton]
    show ofNat bytes.length ((toNat bytes * 256 + b.toNat) / 256) ++ [_] = _
    rw [upper, lowest, ih]

theorem toNat_lt (bytes : Bytes) : toNat bytes < Nat.pow 256 bytes.length := by
  rw [← ofNat_toNat bytes, toNat_ofNat, length_ofNat]
  exact Nat.mod_lt _ (pow_pos _)

theorem ofNat_append (a b n : Nat) :
    ofNat (a + b) n = ofNat a (n / Nat.pow 256 b) ++ ofNat b n := by
  induction b generalizing n with
  | zero =>
    have whole : n / Nat.pow 256 0 = n := Nat.div_one n
    rw [whole]
    simp [ofNat]
  | succ b ih =>
    have parts : n / Nat.pow 256 (b + 1) = n / 256 / Nat.pow 256 b := by
      rw [pow_succ, Nat.div_div_eq_div_mul]
    show ofNat (a + b) (n / 256) ++ [UInt8.ofNat n] = _
    rw [ih, parts, List.append_assoc]
    rfl

theorem ofNat_zero (w : Nat) : ofNat w 0 = List.replicate w 0 := by
  induction w with
  | zero => rfl
  | succ w ih =>
    rw [List.replicate_succ', ← ih]
    rfl

/-- All bytes of the largest number are the largest. -/
theorem ofNat_largest (w : Nat) : ofNat w (Nat.pow 256 w - 1) = List.replicate w 255 := by
  induction w with
  | zero => rfl
  | succ w ih =>
    have positive := pow_pos w
    have upper : (Nat.pow 256 (w + 1) - 1) / 256 = Nat.pow 256 w - 1 := by
      rw [pow_succ]
      omega
    have lowest : UInt8.ofNat (Nat.pow 256 (w + 1) - 1) = 255 := by
      have rest : (Nat.pow 256 (w + 1) - 1) % 256 = 255 := by
        rw [pow_succ]
        omega
      apply UInt8.toNat_inj.mp
      rw [UInt8.toNat_ofNat', rest]
      rfl
    rw [ofNat, upper, lowest, ih, List.replicate_succ']

/-- Above a number that fits into the lower bytes there are zeros. -/
theorem ofNat_padded {size width n : Nat} (fits : size ≤ width) (small : n < Nat.pow 256 size) :
    ofNat width n = List.replicate (width - size) 0 ++ ofNat size n := by
  obtain ⟨a, rfl⟩ := Nat.exists_eq_add_of_le' fits
  rw [Nat.add_sub_cancel, ofNat_append, Nat.div_eq_of_lt small, ofNat_zero]

/-- A number that is below the largest by no more than the lower bytes can say has only the largest
byte above them. -/
theorem ofNat_filled {size width n : Nat} (fits : size ≤ width) (small : n < Nat.pow 256 size) :
    ofNat width (Nat.pow 256 width - Nat.pow 256 size + n) =
      List.replicate (width - size) 255 ++
        ofNat size (Nat.pow 256 width - Nat.pow 256 size + n) := by
  obtain ⟨a, rfl⟩ := Nat.exists_eq_add_of_le' fits
  have upper : (Nat.pow 256 (a + size) - Nat.pow 256 size + n) / Nat.pow 256 size =
      Nat.pow 256 a - 1 := by
    have whole : Nat.pow 256 (a + size) - Nat.pow 256 size =
        (Nat.pow 256 a - 1) * Nat.pow 256 size := by
      rw [pow_add, Nat.sub_mul, Nat.one_mul]
    rw [whole, Nat.mul_comm, Nat.mul_add_div (pow_pos size), Nat.div_eq_of_lt small, Nat.add_zero]
  rw [Nat.add_sub_cancel, ofNat_append, upper, ofNat_largest]

end SolidityRepl.Bytes
