import Mathlib.Data.List.Infix
import SolidityRepl.Text.Search

namespace SolidityRepl.Text

variable {stop : Char} {front after cs : List Char}

theorem splitAtFirst?_append (absent : ∀ c ∈ front, c ≠ stop) :
    splitAtFirst? stop (front ++ stop :: after) = some (front, after) := by
  induction front with
  | nil => rw [List.nil_append, splitAtFirst?, beq_self_eq_true, if_pos rfl]
  | cons c front ih =>
    have other : (c == stop) = false := beq_false_of_ne (absent c List.mem_cons_self)
    rw [List.cons_append, splitAtFirst?, other, ih fun d among => absent d (.tail _ among)]
    rfl

theorem splitAtFirst?_absent (absent : ∀ c ∈ cs, c ≠ stop) : splitAtFirst? stop cs = none := by
  induction cs with
  | nil => rfl
  | cons c cs ih =>
    have other : (c == stop) = false := beq_false_of_ne (absent c List.mem_cons_self)
    rw [splitAtFirst?, other, ih fun d among => absent d (List.mem_cons_of_mem _ among)]
    rfl

/-- The last place of a character is the one behind which it does not occur. -/
theorem splitAtLast?_append (absent : ∀ c ∈ after, c ≠ stop) :
    splitAtLast? stop (front ++ stop :: after) = some (front, after) := by
  have turned : (front ++ stop :: after).reverse = after.reverse ++ stop :: front.reverse := by
    simp
  rw [splitAtLast?, turned,
    splitAtFirst?_append fun c among => absent c (List.mem_reverse.mp among)]
  simp

theorem splitAtLast?_absent (absent : ∀ c ∈ cs, c ≠ stop) : splitAtLast? stop cs = none := by
  rw [splitAtLast?, splitAtFirst?_absent fun c among => absent c (List.mem_reverse.mp among)]
  rfl

theorem afterLast_absent (absent : ∀ c ∈ cs, c ≠ stop) : afterLast stop cs = cs := by
  rw [afterLast, splitAtLast?_absent absent]
  rfl

theorem afterLast_append (front : List Char) (absent : ∀ c ∈ after, c ≠ stop) :
    afterLast stop (front ++ stop :: after) = after := by
  rw [afterLast, splitAtLast?_append absent]
  rfl

/-- A text has no mark, or it is cut at the last one. -/
theorem absent_or_exists_cut (stop : Char) (cs : List Char) :
    (∀ c ∈ cs, c ≠ stop) ∨
      ∃ front after, cs = front ++ stop :: after ∧ ∀ c ∈ after, c ≠ stop := by
  by_cases mem : stop ∈ cs
  · obtain ⟨back, front, turned, absent⟩ := List.eq_append_cons_of_mem (List.mem_reverse.mpr mem)
    refine .inr ⟨front.reverse, back.reverse, ?_, ?_⟩
    · rw [← List.reverse_reverse cs, turned]
      simp
    · rintro c among rfl
      exact absent (List.mem_reverse.mp among)
  · refine .inl ?_
    rintro c among rfl
    exact mem among

/-- A word in front is taken away. -/
theorem isPrefixOf?_append (word rest : List Char) :
    word.isPrefixOf? (word ++ rest) = some rest :=
  List.isPrefixOf?_eq_some_iff_append_eq.mpr rfl

/-- A word that does not begin a text is not taken away from it. -/
theorem isPrefixOf?_absent {word cs : List Char} (absent : ¬word <+: cs) :
    word.isPrefixOf? cs = none := by
  cases read : word.isPrefixOf? cs with
  | none => rfl
  | some rest => exact absurd ⟨rest, List.isPrefixOf?_eq_some_iff_append_eq.mp read⟩ absent

variable {test : Char → Bool} {rest : List Char}

theorem takeWhile_until (all : ∀ c ∈ front, test c = true)
    (ends : ∀ c ∈ rest.head?, test c = false) : (front ++ rest).takeWhile test = front := by
  rw [List.takeWhile_append_of_pos all]
  cases rest with
  | nil => simp
  | cons c rest =>
    have stop := ends c rfl
    simp [stop]

theorem dropWhile_until (all : ∀ c ∈ front, test c = true)
    (ends : ∀ c ∈ rest.head?, test c = false) : (front ++ rest).dropWhile test = rest := by
  rw [List.dropWhile_append_of_pos all]
  cases rest with
  | nil => rfl
  | cons c rest =>
    have stop := ends c rfl
    simp [stop]

end SolidityRepl.Text
