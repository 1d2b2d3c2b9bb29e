import SolidityRepl.Text.Blank
import SolidityRepl.Text.Word

/-!
# Letters, digits and white space

No letter is a digit, so that a name is no number, and no white space is either, so that names end
in front of it.
-/

namespace SolidityRepl.Text

/-- The letters of ASCII. -/
theorem isAlpha_toNat {c : Char} (letter : c.isAlpha = true) :
    65 ≤ c.toNat ∧ c.toNat ≤ 90 ∨ 97 ≤ c.toNat ∧ c.toNat ≤ 122 := by
  have cased : (c.isUpper || c.isLower) = true := letter
  rcases Bool.or_eq_true_iff.mp cased with upper | lower
  · have between : 'A'.val ≤ c.val ∧ c.val ≤ 'Z'.val := of_decide_eq_true upper
    exact .inl between
  · have between : (decide ('a'.val ≤ c.val) && decide (c.val ≤ 'z'.val)) = true := lower
    rw [Bool.and_eq_true, decide_eq_true_eq, decide_eq_true_eq] at between
    exact .inr between

theorem isAlpha_of_isDigit {c : Char} (digit : c.isDigit = true) : c.isAlpha = false := by
  have most : c.toNat ≤ 57 := (Char.isDigit_iff_toNat.mp digit).2
  rw [Bool.eq_false_iff]
  intro letter
  rcases isAlpha_toNat letter with ⟨least, -⟩ | ⟨least, -⟩ <;> omega

theorem isDigit_of_isNameStart {c : Char} (starts : isNameStart c = true) : c.isDigit = false := by
  rw [Bool.eq_false_iff]
  intro digit
  obtain rfl | rfl : c = '_' ∨ c = '$' := by
    simpa [isNameStart, isAlpha_of_isDigit digit] using starts
  · cases digit
  · cases digit

theorem inRanges_eq_foldl (bounds : Array Nat) (n : Nat) :
    inRanges bounds n =
      bounds.toList.foldl (fun inside b => if b ≤ n then !inside else inside) false := by
  rw [inRanges, Array.foldl_toList]

def spacesBeyond : List Nat :=
  [0x85, 0xa0, 0x1680] ++ List.range' 0x2000 11 ++ [0x2028, 0x2029, 0x202f, 0x205f, 0x3000]

/-- **White space is no word character.** The table of letters is read as a list, since finding a
place in an array takes the kernel as many steps as there are places before it. -/
theorem isWord_of_isBlank {c : Char} (blank : isBlank c = true) : isWord c = false := by
  simp only [isBlank, Bool.or_eq_true, Bool.and_eq_true, decide_eq_true_eq, beq_iff_eq] at blank
  by_cases small : c.toNat < 128
  · have all : ∀ n ∈ List.range' 0x9 5 ++ List.range' 0x1c 5, isWord (Char.ofNat n) = false := by
      decide
    have own : isWord (Char.ofNat c.toNat) = false := by
      apply all
      simp only [List.mem_append, List.mem_range'_1]
      omega
    rwa [Char.ofNat_toNat] at own
  · have all : ∀ n ∈ spacesBeyond, wordRanges.toList.foldl
        (fun inside b => if b ≤ n then !inside else inside) false = false := by
      decide +kernel
    rw [isWord, if_neg small, inRanges_eq_foldl]
    apply all
    simp only [spacesBeyond, List.mem_append, List.mem_range'_1, List.mem_cons, List.not_mem_nil]
    omega

theorem isNameChar_of_isBlank {c : Char} (blank : isBlank c = true) : isNameChar c = false := by
  have dollar : c ≠ '$' := by
    rintro rfl
    cases blank
  simp [isNameChar, isWord_of_isBlank blank, dollar]

end SolidityRepl.Text
