import Mathlib.Data.Prod.Lex
import Mathlib.Order.PiLex
import SolidityRepl.Proofs.Version.Release

/-!
# The order of plain versions

A version that has an epoch and a release and nothing else is told by the two: by the epoch first,
and then by the numbers of the release, one after the other, with zeros behind the last of them.
-/

namespace SolidityRepl.Version

/-- The numbers of a release, with zeros behind the last. -/
def numbers (release : List Nat) (i : Nat) : Nat := release.getD i 0

/-- The place of a version among plain ones. -/
def rank (v : Version) : Nat ×ₗ Lex (Nat → Nat) := toLex (v.epoch, toLex (numbers v.release))

/-! ## Lists of numbers -/

/-- The first numbers that a function gives. -/
def firsts (n : Nat) (f : Nat → Nat) : List Nat := (List.range n).map f

theorem firsts_succ (n : Nat) (f : Nat → Nat) :
    firsts (n + 1) f = f 0 :: firsts n fun i => f (i + 1) := by
  rw [firsts, List.range_succ_eq_map, List.map_cons, List.map_map]
  rfl

theorem leading_eq_firsts (n : Nat) (release : List Nat) :
    leading n release = firsts n (numbers release) := by
  induction n generalizing release with
  | zero => rfl
  | succ n ih =>
    rw [firsts_succ]
    cases release with
    | nil => rw [leading_nil, ih]; rfl
    | cons k rest => rw [leading_cons, ih]; rfl

/-- Lists of numbers are in the order of their first difference. -/
theorem compareLists_firsts_lt (n : Nat) (f g : Nat → Nat) :
    compareLists compareNumbers (firsts n f) (firsts n g) = .lt ↔
      ∃ i < n, (∀ j < i, f j = g j) ∧ f i < g i := by
  induction n generalizing f g with
  | zero => simp [firsts, compareLists]
  | succ n ih =>
    rw [firsts_succ, firsts_succ, compareLists, Ordering.then_eq_lt, compareNumbers_eq_lt,
      compareNumbers_eq_eq, ih]
    constructor
    · rintro (less | ⟨same, i, inside, alike, less⟩)
      · exact ⟨0, Nat.succ_pos n, fun j before => absurd before (Nat.not_lt_zero j), less⟩
      · refine ⟨i + 1, Nat.succ_lt_succ inside, ?_, less⟩
        intro j before
        cases j with
        | zero => exact same
        | succ j => exact alike j (Nat.lt_of_succ_lt_succ before)
    · rintro ⟨i, inside, alike, less⟩
      cases i with
      | zero => exact .inl less
      | succ i =>
        refine .inr ⟨alike 0 (Nat.succ_pos i), i, Nat.lt_of_succ_lt_succ inside, ?_, less⟩
        exact fun j before => alike (j + 1) (Nat.succ_lt_succ before)

/-- Lists of numbers are the same if they do not differ. -/
theorem compareLists_firsts_eq (n : Nat) (f g : Nat → Nat) :
    compareLists compareNumbers (firsts n f) (firsts n g) = .eq ↔ ∀ i < n, f i = g i := by
  induction n generalizing f g with
  | zero => simp [firsts, compareLists]
  | succ n ih =>
    rw [firsts_succ, firsts_succ, compareLists, Ordering.then_eq_eq, compareNumbers_eq_eq, ih]
    constructor
    · rintro ⟨same, alike⟩ i inside
      cases i with
      | zero => exact same
      | succ i => exact alike i (Nat.lt_of_succ_lt_succ inside)
    · intro alike
      exact ⟨alike 0 (Nat.succ_pos n), fun i inside => alike (i + 1) (Nat.succ_lt_succ inside)⟩

/-! ## Releases -/

theorem numbers_of_length_le {release : List Nat} {i : Nat} (short : release.length ≤ i) :
    numbers release i = 0 := by
  rw [numbers, List.getD_eq_getElem?_getD, List.getElem?_eq_none short]
  rfl

/-- Releases are in the order of their numbers. -/
theorem compareLists_trimmed_lt (as bs : List Nat) :
    compareLists compareNumbers (trimmed as) (trimmed bs) = .lt ↔
      toLex (numbers as) < toLex (numbers bs) := by
  rw [compareLists_trimmed (max as.length bs.length) (Nat.le_max_left _ _) (Nat.le_max_right _ _),
    leading_eq_firsts, leading_eq_firsts, compareLists_firsts_lt]
  constructor
  · rintro ⟨i, -, alike, less⟩
    exact ⟨i, alike, less⟩
  · rintro ⟨i, alike, less⟩
    refine ⟨i, ?_, alike, less⟩
    by_contra outside
    have long : bs.length ≤ i := (Nat.le_max_right as.length _).trans (Nat.le_of_not_lt outside)
    have none : numbers as i < numbers bs i := less
    rw [numbers_of_length_le long] at none
    exact Nat.not_lt_zero _ none

theorem compareLists_trimmed_eq (as bs : List Nat) :
    compareLists compareNumbers (trimmed as) (trimmed bs) = .eq ↔ numbers as = numbers bs := by
  rw [compareLists_trimmed (max as.length bs.length) (Nat.le_max_left _ _) (Nat.le_max_right _ _),
    leading_eq_firsts, leading_eq_firsts, compareLists_firsts_eq]
  constructor
  · intro alike
    funext i
    by_cases inside : i < max as.length bs.length
    · exact alike i inside
    · have outside := Nat.le_of_not_lt inside
      rw [numbers_of_length_le ((Nat.le_max_left _ _).trans outside),
        numbers_of_length_le ((Nat.le_max_right _ _).trans outside)]
  · rintro alike i -
    rw [alike]

/-! ## Plain versions -/

variable {v w : Version}

theorem unmarked_of_isPlain (plain : v.isPlain = true) :
    v.stage = none ∧ v.post = none ∧ v.dev = none ∧ v.vendor = [] := by
  simp only [isPlain, isPrerelease, isPostrelease, Bool.and_eq_true, Bool.not_eq_true',
    Bool.or_eq_false_iff, Option.isSome_eq_false_iff, Option.isNone_iff_eq_none,
    List.isEmpty_iff] at plain
  obtain ⟨⟨⟨stage, dev⟩, post⟩, vendor⟩ := plain
  exact ⟨stage, post, dev, vendor⟩

theorem compare_plain (plain : v.isPlain = true) (plain' : w.isPlain = true) :
    v.compare w = (compareNumbers v.epoch w.epoch).then
      (compareLists compareNumbers (trimmed v.release) (trimmed w.release)) := by
  obtain ⟨stage, post, dev, vendor⟩ := unmarked_of_isPlain plain
  obtain ⟨stage', post', dev', vendor'⟩ := unmarked_of_isPlain plain'
  rw [compare, stageKey, stageKey, postKey, postKey, devKey, devKey, stage, post, dev, vendor,
    stage', post', dev', vendor']
  show Ordering.then _ (Ordering.then _ .eq) = _
  rw [Ordering.then_eq]

/-- **Plain versions are in the order of their places.** -/
theorem before_iff_rank (plain : v.isPlain = true) (plain' : w.isPlain = true) :
    v.before w = true ↔ rank v < rank w := by
  rw [before, beq_iff_eq, compare_plain plain plain', Ordering.then_eq_lt, compareNumbers_eq_lt,
    compareNumbers_eq_eq, compareLists_trimmed_lt, rank, rank, Prod.Lex.toLex_lt_toLex]

theorem same_iff_rank (plain : v.isPlain = true) (plain' : w.isPlain = true) :
    v.same w = true ↔ rank v = rank w := by
  rw [same, beq_iff_eq, compare_plain plain plain', Ordering.then_eq_eq, compareNumbers_eq_eq,
    compareLists_trimmed_eq, rank, rank, toLex_inj, Prod.mk.injEq, toLex_inj]

end SolidityRepl.Version
