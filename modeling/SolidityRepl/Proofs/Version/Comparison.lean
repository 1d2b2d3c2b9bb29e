import SolidityRepl.Proofs.Abi.Written
import SolidityRepl.Proofs.Text.Blank
import SolidityRepl.Proofs.Text.Split
import SolidityRepl.Proofs.Version.Release
import SolidityRepl.Version.Range

/-!
# Comparisons

One comparison of a version pragma: a sign, or none, and two or three numbers. Two numbers stand for
a whole series.

* `Comparison.Admits`: the releases that are meant;
* `Comparison.Takes`: the releases that its clause lets through;
* `parse?_clauseText`, `fits_clause`: the clause of a comparison, and what it lets through;
* `admits_of_takes`, `IsMisread`: which comparisons let through no more than they mean.
-/

namespace SolidityRepl.Range

open Text Version

/-! ## How comparisons are written -/

structure Numeral where
  digits : List Char
  ne_nil : digits ≠ []
  decimal : ∀ c ∈ digits, c.isDigit = true

def Numeral.value (n : Numeral) : Nat := decimalValue n.digits

/-- What may stand before the numbers of a version. -/
inductive Sign where
  | bare
  | equal
  | caret
  | tilde
  | below
  | atMost
  | above
  | atLeast
  deriving DecidableEq, Repr

def Sign.text : Sign → List Char
  | .bare => []
  | .equal => ['=']
  | .caret => ['^']
  | .tilde => ['~']
  | .below => ['<']
  | .atMost => ['<', '=']
  | .above => ['>']
  | .atLeast => ['>', '=']

def Sign.comparator : Sign → Comparator
  | .bare | .equal => .equal
  | .caret | .tilde => .compatible
  | .below => .below
  | .atMost => .atMost
  | .above => .above
  | .atLeast => .atLeast

/-- A sign with two or three numbers. White space may stand between them, and a `v` before the
numbers. -/
structure Comparison where
  sign : Sign
  gap : List Char
  marked : Bool
  major : Numeral
  minor : Numeral
  patch : Option Numeral
  blank : ∀ c ∈ gap, isBlank c = true
  close : sign = .bare → gap = []

theorem close_nil (sign : Sign) : sign = .bare → ([] : List Char) = [] := fun _ => rfl

namespace Comparison

def numbers (c : Comparison) : List Char :=
  c.major.digits ++ '.' :: c.minor.digits ++
    match c.patch with
    | none => []
    | some patch => '.' :: patch.digits

/-- The numbers, with the mark if there is one. -/
def operand (c : Comparison) : List Char := if c.marked then 'v' :: c.numbers else c.numbers

def text (c : Comparison) : List Char := c.sign.text ++ c.gap ++ c.operand

/-- A comparison without its white space. -/
def token (c : Comparison) : List Char := c.sign.text ++ c.operand

def version (c : Comparison) : Version :=
  { release := c.major.value :: c.minor.value :: (c.patch.map Numeral.value).toList }

/-- What stands behind the comparator of a clause: a `v` stays unless it comes first. -/
def written (c : Comparison) : List Char := if c.sign = .bare then c.numbers else c.operand

def clause (c : Comparison) : Clause := ⟨c.sign.comparator, String.ofList c.written⟩

/-! ## What comparisons mean -/

/-- The first release of the series. -/
def first (c : Comparison) : Triple :=
  ⟨c.major.value, c.minor.value, (c.patch.map Numeral.value).getD 0⟩

/-- The first release after the series, which is one release if all three numbers are there. -/
def next (c : Comparison) : Triple :=
  match c.patch with
  | none => ⟨c.major.value, c.minor.value + 1, 0⟩
  | some patch => ⟨c.major.value, c.minor.value, patch.value + 1⟩

def nextMinor (c : Comparison) : Triple := ⟨c.major.value, c.minor.value + 1, 0⟩

def nextMajor (c : Comparison) : Triple := ⟨c.major.value + 1, 0, 0⟩

/-- The first release that is not compatible any more: that of the next major number, or of the next
minor one if the major one is zero. -/
def caretEnd (c : Comparison) : Triple :=
  if c.major.value = 0 then c.nextMinor else c.nextMajor

/-- The releases that a comparison means. Two numbers stand for their series. -/
def Admits (c : Comparison) (v : Triple) : Prop :=
  match c.sign with
  | .bare | .equal => ¬ v.Below c.first ∧ v.Below c.next
  | .caret => ¬ v.Below c.first ∧ v.Below c.caretEnd
  | .tilde => ¬ v.Below c.first ∧ v.Below c.nextMinor
  | .below => v.Below c.first
  | .atMost => v.Below c.next
  | .above => ¬ v.Below c.next
  | .atLeast => ¬ v.Below c.first

/-- The releases that the clause of a comparison lets through. Two numbers stand for their first
release, and the compatible ones are those that agree in all numbers but the last. -/
def Takes (c : Comparison) (v : Triple) : Prop :=
  match c.sign with
  | .bare | .equal => v = c.first
  | .caret | .tilde =>
    ¬ v.Below c.first ∧ v.Below (if c.patch.isSome then c.nextMinor else c.nextMajor)
  | .below => v.Below c.first
  | .atMost => ¬ c.first.Below v
  | .above => c.first.Below v
  | .atLeast => ¬ v.Below c.first

/-- Two numbers after a sign that takes them for less than their series, or for more. -/
def IsMisread (c : Comparison) : Prop :=
  c.patch = none ∧ (c.sign = .tilde ∨ c.sign = .above ∨ c.sign = .caret ∧ c.major.value = 0)

/-- **A comparison that is not misread lets through no more than it means.** -/
theorem admits_of_takes {c : Comparison} (read : ¬ c.IsMisread) {v : Triple} (takes : c.Takes v) :
    c.Admits v := by
  obtain ⟨x, y, z⟩ := v
  unfold IsMisread at read
  unfold Takes at takes
  unfold Admits
  by_cases zero : c.major.value = 0 <;> cases known : c.patch <;> cases said : c.sign <;>
    simp only [said, known, zero, first, next, nextMinor, nextMajor, caretEnd, Triple.Below,
      Option.map_none, Option.map_some, Option.getD_none, Option.getD_some, Option.isSome_none,
      Option.isSome_some, Triple.mk.injEq, reduceCtorEq, true_and, false_and, false_or, or_false,
      not_true, if_true, if_false] at read takes ⊢ <;>
    omega

/-- A comparison that is misread lets a release through that is not meant: the first one of the next
series, or the second one of its own after `>`. -/
theorem exists_of_isMisread {c : Comparison} (misread : c.IsMisread) :
    ∃ v, c.Takes v ∧ ¬ c.Admits v := by
  obtain ⟨known, signs⟩ := misread
  obtain said | said | ⟨said, zero⟩ := signs
  · refine ⟨c.nextMinor, ?_⟩
    simp only [Takes, Admits, said, known, first, nextMinor, nextMajor, Triple.Below,
      Option.map_none, Option.getD_none, Option.isSome_none, reduceCtorEq, true_and, if_false]
    omega
  · refine ⟨⟨c.major.value, c.minor.value, 1⟩, ?_⟩
    simp only [Takes, Admits, said, known, first, next, Triple.Below, Option.map_none,
      Option.getD_none, true_and]
    omega
  · refine ⟨c.nextMinor, ?_⟩
    simp only [Takes, Admits, said, known, zero, first, caretEnd, nextMinor, nextMajor,
      Triple.Below, Option.map_none, Option.getD_none, Option.isSome_none, reduceCtorEq, true_and,
      if_true, if_false]
    omega

/-! ## How versions are read -/

theorem number?_numeral (n : Numeral) {rest : List Char} (ends : Abi.Digitless rest) :
    number? (n.digits ++ rest) = some (n.value, rest) := by
  rw [number?, takeWhile_until n.decimal ends, dropWhile_until n.decimal ends]
  cases shape : n.digits with
  | nil => exact absurd shape n.ne_nil
  | cons d ds => rw [Numeral.value, shape]

/-- What ends a version: white space, or the end of the text. -/
def Ends (rest : List Char) : Prop := ∀ ch, rest.head? = some ch → isBlank ch = true

theorem ends_nil : Ends [] := by
  rintro _ ⟨⟩

theorem Ends.head?_ne {rest : List Char} (ends : Ends rest) (ch : Char)
    (solid : isBlank ch = false) : rest.head? ≠ some ch := by
  intro first
  rw [ends ch first] at solid
  cases solid

theorem Ends.digitless {rest : List Char} (ends : Ends rest) : Abi.Digitless rest := by
  intro c first
  have blank := ends c first
  rw [Bool.eq_false_iff]
  intro digit
  have bounds : 48 ≤ c.toNat ∧ c.toNat ≤ 57 := Char.isDigit_iff_toNat.mp digit
  simp [isBlank] at blank
  omega

theorem digitless_point (rest : List Char) : Abi.Digitless ('.' :: rest) := by
  rintro c ⟨⟩
  rfl

theorem moreNumbers_ends (fuel : Nat) {rest : List Char} (ends : Ends rest) :
    moreNumbers fuel rest = ([], rest) := by
  cases fuel with
  | zero => rfl
  | succ fuel =>
    rw [moreNumbers]
    rintro more rfl
    exact ends.head?_ne '.' (by decide) rfl

theorem moreNumbers_numeral (fuel : Nat) (n : Numeral) {rest : List Char}
    (ends : Abi.Digitless rest) : moreNumbers (fuel + 1) ('.' :: (n.digits ++ rest)) =
      ((moreNumbers fuel rest).map (n.value :: ·) id) := by
  rw [moreNumbers]
  simp only [number?_numeral n ends]
  rfl

def tail (c : Comparison) : List Char :=
  match c.patch with
  | none => []
  | some patch => '.' :: patch.digits

theorem numbers_eq (c : Comparison) :
    c.numbers = c.major.digits ++ '.' :: (c.minor.digits ++ c.tail) := by
  rw [numbers, List.append_assoc]
  rfl

theorem digitless_tail (c : Comparison) {rest : List Char} (ends : Ends rest) :
    Abi.Digitless (c.tail ++ rest) := by
  rw [tail]
  split
  · exact ends.digitless
  · exact digitless_point _

theorem moreNumbers_tail (c : Comparison) {fuel : Nat} (enough : c.tail.length ≤ fuel)
    {rest : List Char} (ends : Ends rest) :
    moreNumbers fuel (c.tail ++ rest) = ((c.patch.map Numeral.value).toList, rest) := by
  rw [tail] at enough ⊢
  cases known : c.patch with
  | none => exact moreNumbers_ends fuel ends
  | some patch =>
    rw [known, List.length_cons] at enough
    obtain ⟨fuel, rfl⟩ : ∃ spare, fuel = spare + 1 := ⟨fuel - 1, by omega⟩
    have last := moreNumbers_numeral fuel patch ends.digitless
    rw [moreNumbers_ends fuel ends] at last
    exact last

/-- The numbers of a comparison are read as those of its version. -/
theorem release?_numbers (c : Comparison) {rest : List Char} (ends : Ends rest) :
    release? (c.numbers ++ rest) = some (c.version.release, rest) := by
  rw [numbers_eq, release?, List.append_assoc, List.cons_append, List.append_assoc,
    number?_numeral _ (digitless_point _)]
  have more : moreNumbers ('.' :: (c.minor.digits ++ (c.tail ++ rest))).length
      ('.' :: (c.minor.digits ++ (c.tail ++ rest))) =
        (c.minor.value :: (c.patch.map Numeral.value).toList, rest) := by
    rw [List.length_cons, moreNumbers_numeral _ _ (c.digitless_tail ends),
      moreNumbers_tail c (by simp only [List.length_append]; omega) ends]
    rfl
  simp only [Option.bind_eq_bind, Option.bind_some, more]
  rfl

theorem epochFrom_numbers (c : Comparison) (rest : List Char) :
    epochFrom (c.numbers ++ rest) = (0, c.numbers ++ rest) := by
  rw [epochFrom, numbers_eq, List.append_assoc, List.cons_append,
    number?_numeral _ (digitless_point _)]
  rfl

/-- No mark begins with white space. -/
theorem markFrom_ends {α : Type} {names : List (String × α)} {rest : List Char} (ends : Ends rest)
    (solid : ∀ n ∈ names, n.1.toList.head?.any (!isBlank ·) = true) :
    markFrom names rest = (none, rest) := by
  have skip : skipMark rest = rest := by
    cases rest with
    | nil => rfl
    | cons b rest =>
      rw [skipMark, if_neg]
      intro mark
      have blank := ends b rfl
      simp only [isMark, Bool.or_eq_true, beq_iff_eq] at mark
      obtain (rfl | rfl) | rfl := mark <;> cases blank
  have unnamed : named? names rest = none := by
    rw [named?, List.findSome?_eq_none_iff]
    intro n among
    have letter := solid n among
    rw [Option.map_eq_none_iff]
    cases shape : n.1.toList with
    | nil =>
      rw [shape] at letter
      cases letter
    | cons x xs =>
      cases rest with
      | nil => rfl
      | cons b rest =>
        have differs : (x == b) = false := by
          rw [beq_eq_false_iff_ne]
          rintro rfl
          have blank := ends x rfl
          rw [shape] at letter
          simp [blank] at letter
        rw [List.isPrefixOf?, differs]
        rfl
  rw [markFrom, skip, unnamed]

theorem postFrom_ends {rest : List Char} (ends : Ends rest) : postFrom rest = (none, rest) := by
  rw [postFrom, markFrom_ends ends (by decide)]
  dsimp only
  split
  · exact absurd rfl (ends.head?_ne '-' (by decide))
  · rfl

/-- Digits begin the numbers. -/
theorem numbers_eq_cons (c : Comparison) :
    ∃ d rest, c.numbers = d :: rest ∧ d.isDigit = true := by
  rw [numbers_eq]
  cases shape : c.major.digits with
  | nil => exact absurd shape c.major.ne_nil
  | cons d ds => exact ⟨d, _, rfl, c.major.decimal d (shape ▸ List.mem_cons_self)⟩

/-- What follows the mark is read in one way. -/
theorem core?_unmarked (c : Comparison) {rest : List Char} (ends : Ends rest) :
    core? ('v' :: (c.numbers ++ rest)) = some (c.version, rest) := by
  rw [core?, epochFrom_numbers]
  simp only [release?_numbers c ends, Option.bind_eq_bind, Option.bind_some]
  rw [markFrom_ends ends (by decide), postFrom_ends ends]
  dsimp only
  rw [markFrom_ends ends (by decide)]
  rfl

theorem core?_numbers (c : Comparison) {rest : List Char} (ends : Ends rest) :
    core? (c.numbers ++ rest) = some (c.version, rest) := by
  obtain ⟨d, more, shape, digit⟩ := c.numbers_eq_cons
  have unmarked : ∀ cs, c.numbers ++ rest ≠ 'v' :: cs := by
    rintro _ marked
    rw [shape] at marked
    cases marked
    cases digit
  rw [core?.eq_2 _ unmarked, ← c.core?_unmarked ends, core?]

theorem core?_operand (c : Comparison) {rest : List Char} (ends : Ends rest) :
    core? (c.operand ++ rest) = some (c.version, rest) := by
  rw [operand]
  split
  · exact c.core?_unmarked ends
  · exact c.core?_numbers ends

theorem core?_written (c : Comparison) : core? c.written = some (c.version, []) := by
  rw [written]
  split
  · simpa using c.core?_numbers ends_nil
  · simpa using c.core?_operand ends_nil

/-! ## Characters -/

/-- A character of a version: a digit, a point or the mark. -/
def IsPlain (ch : Char) : Prop := ch.isDigit = true ∨ ch = '.' ∨ ch = 'v'

theorem isPlain_of_mem_numbers {c : Comparison} {ch : Char} (among : ch ∈ c.numbers) :
    IsPlain ch := by
  rw [numbers_eq, tail] at among
  simp only [List.mem_append, List.mem_cons] at among
  rcases among with digit | point | digit | digit
  · exact .inl (c.major.decimal ch digit)
  · exact .inr (.inl point)
  · exact .inl (c.minor.decimal ch digit)
  · split at digit
    · cases digit
    · rename_i patch _
      rcases List.mem_cons.mp digit with point | digit
      · exact .inr (.inl point)
      · exact .inl (patch.decimal ch digit)

theorem isPlain_of_mem_operand {c : Comparison} {ch : Char} (among : ch ∈ c.operand) :
    IsPlain ch := by
  rw [operand] at among
  split at among
  · rcases List.mem_cons.mp among with mark | among
    · exact .inr (.inr mark)
    · exact isPlain_of_mem_numbers among
  · exact isPlain_of_mem_numbers among

theorem isPlain_of_mem_written {c : Comparison} {ch : Char} (among : ch ∈ c.written) :
    IsPlain ch := by
  rw [written] at among
  split at among
  · exact isPlain_of_mem_numbers among
  · exact isPlain_of_mem_operand among

theorem isBlank_of_isPlain {ch : Char} (plain : IsPlain ch) : isBlank ch = false := by
  rcases plain with digit | rfl | rfl
  · have bounds : 48 ≤ ch.toNat ∧ ch.toNat ≤ 57 := Char.isDigit_iff_toNat.mp digit
    simp [isBlank]
    omega
  · decide
  · decide

theorem isSign_of_isPlain {ch : Char} (plain : IsPlain ch) : isSign ch = false := by
  rcases plain with digit | rfl | rfl
  · rw [Bool.eq_false_iff]
    intro sign
    simp only [isSign, Bool.or_eq_true, beq_iff_eq] at sign
    obtain (((rfl | rfl) | rfl) | rfl) | rfl := sign <;> cases digit
  · decide
  · decide

theorem toLower_of_isPlain {ch : Char} (plain : IsPlain ch) : ch.toLower = ch := by
  rcases plain with digit | rfl | rfl
  · have most : ch.toNat ≤ 57 := (Char.isDigit_iff_toNat.mp digit).2
    refine dif_neg ?_
    rintro ⟨least, -⟩
    have capital : 65 ≤ ch.toNat := least
    omega
  · decide
  · decide

theorem map_toLower_plain {cs : List Char} (plain : ∀ ch ∈ cs, IsPlain ch) :
    cs.map Char.toLower = cs := by
  rw [List.map_congr_left fun ch among => toLower_of_isPlain (plain ch among)]
  exact List.map_id cs

theorem ofChars?_plain {cs : List Char} {v : Version} (plain : ∀ ch ∈ cs, IsPlain ch)
    (core : core? cs = some (v, [])) : ofChars? cs = some v := by
  rw [ofChars?, map_toLower_plain plain, core]
  rfl

theorem ofChars?_numbers (c : Comparison) : ofChars? c.numbers = some c.version :=
  ofChars?_plain (fun _ => isPlain_of_mem_numbers) (by simpa using c.core?_numbers ends_nil)

theorem ofChars?_written (c : Comparison) : ofChars? c.written = some c.version :=
  ofChars?_plain (fun _ => isPlain_of_mem_written) c.core?_written

/-- The last character is a digit. -/
theorem numbers_eq_concat (c : Comparison) :
    ∃ front d, c.numbers = front ++ [d] ∧ d.isDigit = true := by
  have last (n : Numeral) : ∃ front d, n.digits = front ++ [d] ∧ d.isDigit = true := by
    refine ⟨n.digits.dropLast, n.digits.getLast n.ne_nil,
      (List.dropLast_append_getLast n.ne_nil).symm, n.decimal _ (List.getLast_mem n.ne_nil)⟩
  rw [numbers_eq, tail]
  cases c.patch with
  | none =>
    obtain ⟨front, d, shape, digit⟩ := last c.minor
    refine ⟨c.major.digits ++ '.' :: front, d, ?_, digit⟩
    simp [shape]
  | some patch =>
    obtain ⟨front, d, shape, digit⟩ := last patch
    refine ⟨c.major.digits ++ '.' :: (c.minor.digits ++ '.' :: front), d, ?_, digit⟩
    simp [shape]

theorem written_eq_concat (c : Comparison) :
    ∃ front d, c.written = front ++ [d] ∧ d.isDigit = true := by
  obtain ⟨front, d, shape, digit⟩ := c.numbers_eq_concat
  rw [written, operand]
  split
  · exact ⟨front, d, shape, digit⟩
  · split
    · exact ⟨'v' :: front, d, by rw [shape]; rfl, digit⟩
    · exact ⟨front, d, shape, digit⟩

/-- No comparison names a series by a star. -/
theorem series?_written (c : Comparison) : Clause.series? c.written = none := by
  obtain ⟨front, d, shape, digit⟩ := c.written_eq_concat
  rw [Clause.series?, if_neg]
  rw [List.isSuffixOf_iff_suffix, shape]
  rintro ⟨more, whole⟩
  have same : '*' = d := by
    have ends := congrArg List.getLast? whole
    simpa using ends
  rw [← same] at digit
  cases digit

/-! ## The clause of a comparison -/

/-- A digit or the mark begins what stands behind a comparator. -/
theorem written_eq_cons (c : Comparison) :
    ∃ d rest, c.written = d :: rest ∧ (d.isDigit = true ∨ d = 'v') := by
  obtain ⟨d, rest, shape, digit⟩ := c.numbers_eq_cons
  rw [written, operand]
  split
  · exact ⟨d, rest, shape, .inl digit⟩
  · split
    · exact ⟨'v', _, rfl, .inr rfl⟩
    · exact ⟨d, rest, shape, .inl digit⟩

/-- How the clause of a comparison is written. -/
def clauseChars (c : Comparison) : List Char := c.sign.comparator.sign.toList ++ c.written

theorem clauseText_token (c : Comparison) : clauseText c.token = c.clauseChars := by
  obtain ⟨d, rest, shape, digit⟩ := c.numbers_eq_cons
  have unsigned : d ≠ 'v' ∧ d ≠ '=' := by
    constructor <;> rintro rfl <;> cases digit
  rw [token, clauseChars, written, operand]
  cases said : c.sign <;> cases c.marked <;>
    simp [clauseText, Sign.text, Sign.comparator, Comparator.sign, shape, digit, unsigned]

theorem isOperand_written (c : Comparison) :
    Clause.isOperand c.sign.comparator c.written = true := by
  have long : c.version.release.length > 1 := by simp [version]
  have core := c.core?_written
  rw [← map_toLower_plain fun _ => isPlain_of_mem_written] at core
  cases said : c.sign <;>
    simp [Sign.comparator, Clause.isOperand, series?_written, ofChars?_written, core, long]

theorem stripStart_written (c : Comparison) : stripStart c.written = c.written := by
  obtain ⟨d, rest, shape, first⟩ := c.written_eq_cons
  have solid : isBlank d = false :=
    isBlank_of_isPlain (isPlain_of_mem_written (shape ▸ List.mem_cons_self))
  rw [shape, stripStart, List.dropWhile_cons, solid]
  rfl

theorem strip_clauseChars (c : Comparison) : strip c.clauseChars = c.clauseChars := by
  refine strip_of_trim ⟨?_, ?_⟩
  · intro ch first
    cases said : c.sign <;> rw [clauseChars, said] at first <;> cases first <;> decide
  · intro ch last
    obtain ⟨front, d, shape, digit⟩ := c.written_eq_concat
    rw [clauseChars, shape, ← List.append_assoc, List.getLast?_concat] at last
    cases last
    exact isBlank_of_isPlain (.inl digit)

theorem parse?_clauseChars (c : Comparison) : Clause.parse? c.clauseChars = some c.clause := by
  obtain ⟨d, rest, shape, first⟩ := c.written_eq_cons
  have other : ('=' == d) = false := by
    rw [beq_eq_false_iff_ne]
    rintro rfl
    obtain digit | mark := first
    · cases digit
    · cases mark
  have operand := c.isOperand_written
  have start := c.stripStart_written
  rw [Clause.parse?, strip_clauseChars, clauseChars, clause]
  generalize c.written = written at *
  subst shape
  cases said : c.sign <;> rw [said] at operand <;>
    simp only [Sign.comparator] at operand <;>
    simp [Comparator.all, Comparator.sign, Sign.comparator, List.isPrefixOf?, other, start, operand,
      -String.ofList_cons]

/-! ## What clauses of comparisons let through -/

theorem isRelease_version (c : Comparison) : c.version.IsRelease := by
  refine ⟨rfl, ?_⟩
  rw [version]
  cases c.patch with
  | none => exact Nat.le_succ 2
  | some patch => exact Nat.le_refl 3

theorem triple_version (c : Comparison) : c.version.triple = c.first := by
  rw [version, first]
  cases c.patch <;> rfl

/-- The releases of a series are those below the first one of the next. -/
theorem isOfSeries_version (c : Comparison) {v : Version} (release : v.IsRelease)
    (least : ¬ v.triple.Below c.first) :
    v.isOfSeries (Clause.compatibleSeries c.version) = true ↔
      v.triple.Below (if c.patch.isSome then c.nextMinor else c.nextMajor) := by
  rw [version, Clause.isOfSeries_iff release]
  cases known : c.patch <;>
    simp [Triple.Below, first, known, nextMinor, nextMajor] at least ⊢ <;>
    omega

/-- **The clause of a comparison lets through the releases that it takes.** -/
theorem fits_clause (c : Comparison) {v : Version} (release : v.IsRelease) :
    c.clause.fits v = true ↔ c.Takes v.triple := by
  have release' := c.isRelease_version
  have same := Clause.equalTo_iff release release'
  have older := Clause.olderThan_iff release release'
  have newer := Clause.newerThan_iff release release'
  have before := release.before_iff release'
  have after := release'.before_iff release
  have series := c.isOfSeries_version release
  have alone := release.withoutVendor
  rw [triple_version] at same older newer before after
  rw [Clause.fits, clause, String.toList_ofList, ofChars?_written, series?_written, Takes]
  cases said : c.sign <;>
    simp [Sign.comparator, same, older, newer, alone, ← before, ← after]
  -- what is left are the two signs of compatible releases
  all_goals
    intro least
    exact series (by rw [← before, least]; exact Bool.false_ne_true)

end Comparison

end SolidityRepl.Range
