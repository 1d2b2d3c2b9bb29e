import Mathlib.Data.List.Induction
import SolidityRepl.Fragment.Assignment
import SolidityRepl.Proofs.Fragment.Literal

/-!
# Signs that assign

The depth of brackets never falls below zero, so a closing bracket too many hides nothing. A place
is at depth zero just if no text that ends there opens more brackets than it closes.
-/

namespace SolidityRepl.Fragment

variable {cs front before after : List Char} {c : Char} {depth : Nat}

/-! ## Depth -/

/-- The depth of brackets behind a text, from the depth in front of it. -/
def level (depth : Nat) (cs : List Char) : Nat :=
  cs.foldl (fun d c => if opens c then d + 1 else if closes c then d - 1 else d) depth

theorem level_cons (depth : Nat) (c : Char) (cs : List Char) :
    level depth (c :: cs) =
      level (if opens c then depth + 1 else if closes c then depth - 1 else depth) cs := rfl

theorem level_concat (depth : Nat) (cs : List Char) (c : Char) :
    level depth (cs ++ [c]) = if opens c then level depth cs + 1
      else if closes c then level depth cs - 1 else level depth cs := by
  rw [level, List.foldl_append]
  rfl

theorem not_closes_of_opens (opening : opens c = true) : closes c = false := by
  simp only [opens, Bool.or_eq_true, beq_iff_eq] at opening
  obtain rfl | rfl := opening <;> rfl

theorem countP_concat (p : Char → Bool) (cs : List Char) (c : Char) :
    (cs ++ [c]).countP p = cs.countP p + (p c).toNat := by
  rw [List.countP_append, List.countP_singleton]
  cases p c <;> rfl

/-- The ends of a longer text are the empty one, and the ends of the text before with the last
character. -/
theorem ends_concat {k : Nat} :
    (∀ back, back <:+ cs ++ [c] → back.countP opens ≤ back.countP closes + k) ↔
      ∀ back, back <:+ cs →
        back.countP opens + (opens c).toNat ≤ back.countP closes + (closes c).toNat + k := by
  constructor
  · intro all back ends
    have longer := all (back ++ [c]) (List.suffix_concat_iff.mpr (.inr ⟨back, rfl, ends⟩))
    rwa [countP_concat, countP_concat] at longer
  · intro all back ends
    obtain rfl | ⟨back, rfl, shorter⟩ := List.suffix_concat_iff.mp ends
    · exact Nat.zero_le _
    · rw [countP_concat, countP_concat]
      exact all back shorter

/-- **The depth behind a text is the most that one of its ends opens beyond what it closes**, by
induction from the end of the text. -/
theorem level_le_iff {k : Nat} :
    level 0 cs ≤ k ↔ ∀ back, back <:+ cs → back.countP opens ≤ back.countP closes + k := by
  induction cs using List.reverseRecOn generalizing k with
  | nil =>
    constructor
    · intro _ back ends
      rw [List.suffix_nil.mp ends]
      exact Nat.zero_le _
    · intro _
      exact Nat.zero_le k
  | append_singleton cs c ih =>
    rw [ends_concat, level_concat]
    by_cases opening : opens c = true
    · rw [if_pos opening, opening, not_closes_of_opens opening]
      cases k with
      | zero =>
        -- the bracket itself is open at the end
        constructor
        · intro none
          omega
        · intro all
          have empty := all [] List.nil_suffix
          simp at empty
      | succ k =>
        rw [Nat.add_le_add_iff_right, ih]
        apply forall₂_congr
        intro back _
        simp only [Bool.toNat_true, Bool.toNat_false]
        omega
    · rw [if_neg opening, Bool.eq_false_iff.mpr opening]
      by_cases closing : closes c = true
      · rw [if_pos closing, closing, Nat.sub_le_iff_le_add, ih]
        apply forall₂_congr
        intro back _
        simp only [Bool.toNat_true, Bool.toNat_false]
        omega
      · rw [if_neg closing, Bool.eq_false_iff.mpr closing, ih]
        rfl

/-! ## Equals signs -/

/-- An equals sign at depth zero is the first character of a text, or stands behind it. -/
theorem exists_sign_cons :
    (∃ front after, c :: cs = front ++ '=' :: after ∧ level depth front = 0 ∧
      assignsAt (front.reverse ++ before) after = true) ↔
    (c = '=' ∧ depth = 0 ∧ assignsAt before cs = true) ∨
      ∃ front after, cs = front ++ '=' :: after ∧ level depth (c :: front) = 0 ∧
        assignsAt (front.reverse ++ c :: before) after = true := by
  constructor
  · rintro ⟨front, after, cut, even, assigns⟩
    cases front with
    | nil =>
      cases cut
      exact .inl ⟨rfl, even, assigns⟩
    | cons d front =>
      cases cut
      rw [List.reverse_cons, List.append_assoc] at assigns
      exact .inr ⟨front, after, rfl, even, assigns⟩
  · rintro (⟨rfl, even, assigns⟩ | ⟨front, after, rfl, even, assigns⟩)
    · exact ⟨[], cs, rfl, even, assigns⟩
    · refine ⟨c :: front, after, rfl, even, ?_⟩
      rw [List.reverse_cons, List.append_assoc]
      exact assigns

/-- **An assignment stands somewhere at depth zero**, by induction on the text. -/
theorem assignsFrom_iff :
    assignsFrom depth before cs = true ↔ ∃ front after, cs = front ++ '=' :: after ∧
      level depth front = 0 ∧ assignsAt (front.reverse ++ before) after = true := by
  induction cs generalizing depth before with
  | nil =>
    constructor
    · intro never
      cases never
    · rintro ⟨front, after, cut, -⟩
      simp at cut
  | cons c cs ih =>
    rw [exists_sign_cons, assignsFrom]
    simp only [level_cons]
    by_cases opening : opens c = true
    · have other : c ≠ '=' := by
        rintro rfl
        cases opening
      simp only [if_pos opening, ih, other, false_and, false_or]
    · simp only [if_neg opening]
      by_cases closing : closes c = true
      · have other : c ≠ '=' := by
          rintro rfl
          cases closing
        simp only [if_pos closing, ih, other, false_and, false_or]
      · simp only [if_neg closing, Bool.or_eq_true, Bool.and_eq_true, beq_iff_eq, ih, and_assoc]

def IsShift (cs : List Char) : Prop := cs = ['<', '<'] ∨ cs = ['>', '>']

theorem isShift_cons {last : Char} {more : List Char} :
    IsShift ((last :: more).take 2) ↔ (last = '<' ∨ last = '>') ∧ more.head? = some last := by
  cases more with
  | nil => simp [IsShift]
  | cons d more =>
    simp only [IsShift, List.take_succ_cons, List.take_zero, List.cons.injEq, and_true,
      List.head?_cons, Option.some.injEq]
    constructor
    · rintro (⟨rfl, rfl⟩ | ⟨rfl, rfl⟩)
      · exact ⟨.inl rfl, rfl⟩
      · exact ⟨.inr rfl, rfl⟩
    · rintro ⟨rfl | rfl, rfl⟩
      · exact .inl ⟨rfl, rfl⟩
      · exact .inr ⟨rfl, rfl⟩

theorem assignsAt_cons {next last : Char} {more rest : List Char} :
    assignsAt (last :: more) (next :: rest) = true ↔
      (next ≠ '=' ∧ next ≠ '>') ∧ last ≠ '=' ∧
        (last = '!' ∨ last = '<' ∨ last = '>' → IsShift ((last :: more).take 2)) := by
  rw [assignsAt.eq_def]
  dsimp only
  by_cases starts : (next == '=' || next == '>') = true
  · rw [if_pos starts]
    simp only [Bool.or_eq_true, beq_iff_eq] at starts
    constructor
    · intro never
      cases never
    · rintro ⟨⟨noEquals, noArrow⟩, -⟩
      exact absurd starts (not_or.mpr ⟨noEquals, noArrow⟩)
  · rw [if_neg starts]
    simp only [Bool.or_eq_true, beq_iff_eq, not_or] at starts
    have fine : next ≠ '=' ∧ next ≠ '>' := starts
    rw [isShift_cons, and_iff_right fine]
    split
    · rename_i cut
      cases cut
    · rename_i cut
      cases cut
      simp
    · rename_i cut
      cases cut
      simp
    · rename_i d tail noLess noMore cut
      cases cut
      -- a comparison sign that is not doubled
      have single : (last = '<' ∨ last = '>') → more.head? ≠ some last := by
        rintro kind doubled
        obtain ⟨more, rfl⟩ := List.head?_eq_some_iff.mp doubled
        obtain rfl | rfl := kind
        · exact noLess more rfl rfl
        · exact noMore more rfl rfl
      simp only [Bool.not_eq_true', Bool.or_eq_false_iff, beq_eq_false_iff_ne]
      tauto

/-- An equals sign in a text that assigns: it is neither the first nor the last character, no text
that ends in front of it opens more brackets than it closes, and it is part of no comparison and of
no arrow. -/
structure Assigns (cs : List Char) (i : Nat) : Prop where
  sign : cs[i]? = some '='
  notFirst : i ≠ 0
  notLast : i + 1 < cs.length
  outside : ∀ j ≤ i, (cs.extract j i).countP opens ≤ (cs.extract j i).countP closes
  noStart : cs[i + 1]? ≠ some '=' ∧ cs[i + 1]? ≠ some '>'
  noEnd : cs[i - 1]? ≠ some '='
  shift : cs[i - 1]? = some '!' ∨ cs[i - 1]? = some '<' ∨ cs[i - 1]? = some '>' →
    IsShift (cs.extract (i - 2) i)

theorem exists_cut {i : Nat} (there : cs[i]? = some c) :
    ∃ front after, cs = front ++ c :: after ∧ front.length = i := by
  obtain ⟨inside, rfl⟩ := List.getElem?_eq_some_iff.mp there
  refine ⟨cs.take i, cs.drop (i + 1), ?_, List.length_take_of_le inside.le⟩
  rw [List.getElem_cons_drop, List.take_append_drop]

theorem extract_length (front rest : List Char) (j : Nat) :
    (front ++ rest).extract j front.length = front.drop j := by
  rw [List.extract_eq_take_drop, ← List.drop_take, List.take_left]

theorem outside_iff (rest : List Char) :
    (∀ j ≤ front.length, ((front ++ rest).extract j front.length).countP opens ≤
      ((front ++ rest).extract j front.length).countP closes) ↔ level 0 front = 0 := by
  rw [← Nat.le_zero, level_le_iff]
  simp only [extract_length, Nat.add_zero]
  constructor
  · intro all back ends
    rw [List.suffix_iff_eq_drop.mp ends]
    exact all _ (Nat.sub_le _ _)
  · intro all j _
    exact all _ (List.drop_suffix j front)

theorem reverse_lastTwo (cs : List Char) :
    (cs.drop (cs.length - 2)).reverse = cs.reverse.take 2 := by
  rw [List.reverse_drop, List.take_eq_take_iff, List.length_reverse]
  omega

theorem isShift_reverse : IsShift cs.reverse ↔ IsShift cs := by
  rw [IsShift, IsShift, List.reverse_eq_iff, List.reverse_eq_iff]
  rfl

/-- What stands around a sign, told by places and by the texts on both sides. -/
theorem assigns_cut :
    Assigns (front ++ '=' :: after) front.length ↔
      level 0 front = 0 ∧ assignsAt front.reverse after = true := by
  cases after with
  | nil =>
    constructor
    · intro assigns
      have inside := assigns.notLast
      simp at inside
    · rintro ⟨-, never⟩
      cases never
  | cons next rest =>
    have next? : (front ++ '=' :: next :: rest)[front.length + 1]? = some next := by simp
    have inside : front.length + 1 < (front ++ '=' :: next :: rest).length := by
      rw [List.length_append]
      exact Nat.add_lt_add_left (by simp) _
    cases back : front.reverse with
    | nil =>
      obtain rfl := List.reverse_eq_nil_iff.mp back
      constructor
      · intro assigns
        exact absurd rfl assigns.notFirst
      · rintro ⟨-, never⟩
        simp [assignsAt] at never
    | cons last more =>
      obtain rfl := List.reverse_eq_cons_iff.mp back
      have last? : (more.reverse ++ [last] ++ '=' :: next :: rest)[
          (more.reverse ++ [last]).length - 1]? = some last := by
        simp
      have ends : IsShift ((more.reverse ++ [last] ++ '=' :: next :: rest).extract
          ((more.reverse ++ [last]).length - 2) (more.reverse ++ [last]).length) ↔
          IsShift ((last :: more).take 2) := by
        rw [extract_length, ← isShift_reverse, reverse_lastTwo, back]
      rw [assignsAt_cons]
      constructor
      · rintro ⟨-, -, -, outside, noStart, noEnd, shift⟩
        rw [next?] at noStart
        rw [last?] at noEnd shift
        rw [ends] at shift
        simp only [ne_eq, Option.some.injEq] at noStart noEnd shift
        exact ⟨(outside_iff _).mp outside, noStart, noEnd, shift⟩
      · rintro ⟨even, noStart, noEnd, shift⟩
        refine ⟨by simp, by simp, inside, (outside_iff _).mpr even, ?_, ?_, ?_⟩
        · rw [next?]
          simpa using noStart
        · rw [last?]
          simpa using noEnd
        · rw [last?, ends]
          simpa using shift

/-- **A fragment assigns if one of its equals signs does**, when every literal in it has been
replaced by an empty one. -/
theorem hasAssignment_iff (cs : List Char) :
    ∃ masked, (∀ other, Masked cs other ↔ other = masked) ∧
      (hasAssignment cs = true ↔ ∃ i, Assigns masked i) := by
  refine ⟨maskLiterals cs, fun other => masked_iff, ?_⟩
  rw [hasAssignment, assignsFrom_iff]
  constructor
  · rintro ⟨front, after, cut, even, assigns⟩
    rw [List.append_nil] at assigns
    rw [cut]
    exact ⟨front.length, assigns_cut.mpr ⟨even, assigns⟩⟩
  · rintro ⟨i, assigns⟩
    obtain ⟨front, after, cut, rfl⟩ := exists_cut assigns.sign
    rw [cut] at assigns
    obtain ⟨even, assigns⟩ := assigns_cut.mp assigns
    refine ⟨front, after, cut, even, ?_⟩
    rwa [List.append_nil]

-- brackets that close nothing, a compound assignment, and an arrow inside of brackets
example : hasAssignment "))x <<= f(a => b)".toList = true := by cbv

/-- **What a literal says does not matter**: another text in its place, between quotes of either
kind, leaves the fragment an assignment or none. -/
theorem hasAssignment_quoted {quote quote' : Char} (free : ∀ c ∈ front, isQuote c = false)
    (opening : isQuote quote = true) (opening' : isQuote quote' = true)
    (text text' after : List Char) :
    hasAssignment (front ++ (quoted quote text ++ after)) =
      hasAssignment (front ++ (quoted quote' text' ++ after)) := by
  rw [hasAssignment, hasAssignment, maskLiterals_quoted free opening,
    maskLiterals_quoted free opening']

/-- A text full of signs and brackets, and nothing at all. -/
theorem hasAssignment_quoted_signs :
    (∀ c ∈ ['x', '=', '=', 'f', '('], isQuote c = false) ∧ isQuote '"' = true ∧
      isQuote '\'' = true ∧
      hasAssignment (['x', '=', '=', 'f', '('] ++
        (quoted '"' ['=', ')', '"', '\\', '\n', '\'', '['] ++ [')'])) =
      hasAssignment (['x', '=', '=', 'f', '('] ++ (quoted '\'' [] ++ [')'])) := by
  have free : ∀ c ∈ ['x', '=', '=', 'f', '('], isQuote c = false := by simp [isQuote]
  exact ⟨free, rfl, rfl, hasAssignment_quoted free rfl rfl _ _ _⟩

end SolidityRepl.Fragment
