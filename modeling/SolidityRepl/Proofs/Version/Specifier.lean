import SolidityRepl.Proofs.Version.Key

/-!
# Ranges of full versions

The versions of compilers have three numbers, of which the first is zero and the second is not. A
conjunction of comparisons with such versions becomes clauses that let through just the releases
that are meant.
-/

namespace SolidityRepl.Range

open Text Version

/-- The clauses of a range, if it is one and its numbers can be read. -/
def specifier (spec : String) : Except Failure (List Clause) :=
  match clauses? spec with
  | none => .error .badSpecifier
  | some clauses => if clauses.any Clause.isOverlong then .error .overlong else .ok clauses

/-! ## Numbers that are too long -/

namespace Comparison

def numerals (c : Comparison) : List Numeral := c.major :: c.minor :: c.patch.toList

theorem numbers_plus {c : Comparison} {ch : Char} (among : ch ∈ c.numbers) :
    (ch != '+') = true := by
  rw [bne_iff_ne]
  rintro rfl
  rcases isPlain_of_mem_numbers among with digit | point | mark
  · cases digit
  · cases point
  · cases mark

theorem splitOnP_numeral (n : Numeral) :
    n.digits.splitOnP (fun ch => !ch.isDigit) = [n.digits] := by
  apply List.splitOnP_eq_singleton
  intro ch among
  rw [n.decimal ch among]
  rfl

theorem splitOnP_point (n : Numeral) (rest : List Char) :
    (n.digits ++ '.' :: rest).splitOnP (fun ch => !ch.isDigit) =
      n.digits :: rest.splitOnP (fun ch => !ch.isDigit) := by
  have parts := List.splitOnP_append_cons (p := fun ch => !ch.isDigit) n.digits rest
    (show (!('.').isDigit) = true from rfl)
  rw [parts, splitOnP_numeral]
  rfl

theorem splitOnP_numbers (c : Comparison) :
    c.numbers.splitOnP (fun ch => !ch.isDigit) = c.numerals.map (·.digits) := by
  rw [numbers_eq, tail, numerals, splitOnP_point]
  cases c.patch with
  | none =>
    rw [List.append_nil, splitOnP_numeral]
    rfl
  | some patch =>
    rw [splitOnP_point, splitOnP_numeral]
    rfl

/-- **A version cannot be read if one of its numbers has too many digits.** -/
theorem hasOverlong_numbers (c : Comparison) :
    hasOverlong c.numbers = true ↔ ∃ n ∈ c.numerals, mostDigits < n.digits.length := by
  have core : c.numbers.takeWhile (· != '+') = c.numbers :=
    List.takeWhile_eq_self_iff.mpr fun ch => numbers_plus
  rw [hasOverlong, core, List.drop_length, splitOnP_numbers]
  simp [Text.isOverlong]

/-! ## Full versions -/

end Comparison

/-! ## Conjunctions -/

def digit (ch : Char) (decimal : ch.isDigit = true) : Numeral :=
  ⟨[ch], List.cons_ne_nil _ _, List.forall_mem_singleton.mpr decimal⟩

def zero : Numeral := digit '0' rfl

def one : Numeral := digit '1' rfl

def seven : Numeral := digit '7' rfl

def eight : Numeral := digit '8' rfl

/-- What is at least a version with a given last number. -/
def atLeast (n : Numeral) : Conjunction :=
  ⟨⟨.atLeast, [], false, zero, one, some n, blank_nil, close_nil .atLeast⟩, []⟩

/-- A number with one digit too many, all of them ones. -/
def ones : Numeral where
  digits := List.replicate (mostDigits + 1) '1'
  ne_nil := by simp
  decimal ch among := by
    rw [List.eq_of_mem_replicate among]
    rfl

end SolidityRepl.Range
