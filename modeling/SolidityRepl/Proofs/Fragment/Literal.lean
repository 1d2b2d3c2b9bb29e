import Mathlib.Data.List.Infix
import SolidityRepl.Fragment.Literal

/-!
# Literals from the left

A literal ends at the first quote that no backslash takes. Masking finds literals from the left and
replaces them, whatever is in them; all else stays as it is.
-/

namespace SolidityRepl.Fragment

variable {quote : Char} {cs rest : List Char}

/-! ## What a literal is -/

/-- What stands between two quotes: characters other than the quote and the backslash, and
backslashes, each with the character that it takes. No backslash takes a line feed. -/
inductive Body (quote : Char) : List Char → Prop
  | nil : Body quote []
  | plain {c : Char} {cs : List Char} (other : c ≠ quote) (bare : c ≠ '\\')
      (rest : Body quote cs) : Body quote (c :: cs)
  | taken {c : Char} {cs : List Char} (inside : c ≠ '\n') (rest : Body quote cs) :
      Body quote ('\\' :: c :: cs)

/-- A literal stands between two equal quotes. -/
inductive IsLiteral : List Char → Prop
  | between {quote : Char} {body : List Char} (isQuote : isQuote quote = true)
      (inside : Body quote body) : IsLiteral (quote :: (body ++ [quote]))

theorem ne_backslash_of_isQuote (isQuote : isQuote quote = true) : quote ≠ '\\' := by
  rintro rfl
  cases isQuote

/-- A literal is read up to its closing quote, by induction on what is in it. -/
theorem Body.literalRest? (proper : quote ≠ '\\') (inside : Body quote cs) (rest : List Char) :
    literalRest? quote (cs ++ quote :: rest) = some rest := by
  induction inside with
  | nil =>
    rw [List.nil_append, Fragment.literalRest?]
    · simp [proper]
    · intro c more begins
      exact absurd begins proper
  | plain other bare _ ih =>
    rw [List.cons_append, Fragment.literalRest?]
    · simpa [bare, other] using ih
    · intro c more begins
      exact absurd begins bare
  | taken inside _ ih =>
    rw [List.cons_append, List.cons_append, Fragment.literalRest?]
    simpa [inside] using ih

theorem exists_body (read : literalRest? quote cs = some rest) :
    ∃ body, Body quote body ∧ cs = body ++ quote :: rest := by
  fun_induction literalRest? quote cs with
  | case1 => cases read
  | case2 => cases read
  | case3 c more inside ih =>
    obtain ⟨body, between, rfl⟩ := ih read
    exact ⟨_, .taken (by simpa using inside) between, rfl⟩
  | case4 => cases read
  | case5 c more bare _ closing =>
    cases read
    exact ⟨[], .nil, by simpa using closing⟩
  | case6 c more _ bare other ih =>
    obtain ⟨body, between, rfl⟩ := ih read
    exact ⟨_, .plain (by simpa using other) (by simpa using bare) between, rfl⟩

/-! ## Literals from the left -/

/-- A text, and the text with its literals replaced by empty ones: where a literal begins, the next
literal from the left is replaced; where none begins, the character stays. -/
inductive Masked : List Char → List Char → Prop
  | nil : Masked [] []
  | literal {text rest masked : List Char} (literal : IsLiteral text) (next : Masked rest masked) :
      Masked (text ++ rest) ('"' :: '"' :: masked)
  | other {c : Char} {rest masked : List Char} (none : ∀ text, IsLiteral text → ¬text <+: c :: rest)
      (next : Masked rest masked) : Masked (c :: rest) (c :: masked)

theorem maskLiterals_nil : maskLiterals [] = [] := by
  rw [maskLiterals]

theorem maskLiterals_literal {text : List Char} (literal : IsLiteral text) (rest : List Char) :
    maskLiterals (text ++ rest) = '"' :: '"' :: maskLiterals rest := by
  obtain ⟨opening, inside⟩ := literal
  have read := inside.literalRest? (ne_backslash_of_isQuote opening) rest
  rw [List.cons_append, List.append_assoc, List.singleton_append, maskLiterals, if_pos opening]
  split
  · rename_i after found
    cases read.symm.trans found
    rfl
  · rename_i none
    cases read.symm.trans none

theorem maskLiterals_other {c : Char} (none : ∀ text, IsLiteral text → ¬text <+: c :: rest) :
    maskLiterals (c :: rest) = c :: maskLiterals rest := by
  rw [maskLiterals]
  by_cases opening : isQuote c = true
  · rw [if_pos opening]
    split
    · rename_i after found
      obtain ⟨body, inside, rfl⟩ := exists_body found
      refine absurd ?_ (none _ (.between opening inside))
      exact ⟨after, by simp⟩
    · rfl
  · rw [if_neg opening]

theorem masked_maskLiterals (cs : List Char) : Masked cs (maskLiterals cs) := by
  fun_induction maskLiterals cs with
  | case1 => exact .nil
  | case2 c rest opening after found ih =>
    obtain ⟨body, inside, rfl⟩ := exists_body found
    simpa using Masked.literal (.between opening inside) ih
  | case3 c rest opening none ih =>
    refine .other ?_ ih
    rintro _ ⟨_, inside⟩ ⟨after, same⟩
    simp only [List.cons_append, List.append_assoc, List.cons.injEq] at same
    obtain ⟨rfl, rfl⟩ := same
    have read := inside.literalRest? (ne_backslash_of_isQuote opening) after
    cases none.symm.trans read
  | case4 c rest other ih =>
    refine .other ?_ ih
    rintro _ ⟨opening, _⟩ ⟨after, same⟩
    cases (List.cons.inj same).1
    exact other opening

/-- **Masking replaces the literals that are found from the left, and nothing else.** -/
theorem masked_iff {masked : List Char} : Masked cs masked ↔ masked = maskLiterals cs := by
  constructor
  · intro replaced
    induction replaced with
    | nil => rw [maskLiterals_nil]
    | literal literal _ ih => rw [maskLiterals_literal literal, ih]
    | other none _ ih => rw [maskLiterals_other none, ih]
  · rintro rfl
    exact masked_maskLiterals cs

/-- What is in front of all quotes stays as it is. -/
theorem maskLiterals_append {front : List Char} (free : ∀ c ∈ front, isQuote c = false)
    (rest : List Char) : maskLiterals (front ++ rest) = front ++ maskLiterals rest := by
  induction front with
  | nil => rfl
  | cons c front ih =>
    obtain ⟨first, others⟩ := List.forall_mem_cons.mp free
    rw [List.cons_append, maskLiterals_other, ih others, List.cons_append]
    rintro _ ⟨opening, _⟩ ⟨after, same⟩
    cases (List.cons.inj same).1
    rw [opening] at first
    cases first

/-! ## Quoted texts -/

/-- A text with a backslash in front of every backslash and of every such quote. -/
def escaped (quote : Char) (text : List Char) : List Char :=
  text.flatMap fun c => if c = '\\' ∨ c = quote then ['\\', c] else [c]

def quoted (quote : Char) (text : List Char) : List Char := quote :: (escaped quote text ++ [quote])

theorem body_escaped (ordinary : quote ≠ '\n') (text : List Char) :
    Body quote (escaped quote text) := by
  induction text with
  | nil => exact .nil
  | cons c text ih =>
    rw [escaped, List.flatMap_cons]
    by_cases special : c = '\\' ∨ c = quote
    · rw [if_pos special]
      refine .taken ?_ ih
      obtain rfl | rfl := special
      · decide
      · exact ordinary
    · rw [if_neg special]
      rw [not_or] at special
      exact .plain special.2 special.1 ih

theorem isLiteral_quoted (opening : isQuote quote = true) (text : List Char) :
    IsLiteral (quoted quote text) := by
  refine .between opening (body_escaped ?_ text)
  rintro rfl
  cases opening

/-- **A quoted text is masked as one literal, whatever the text.** -/
theorem maskLiterals_quoted {front : List Char} (free : ∀ c ∈ front, isQuote c = false)
    (opening : isQuote quote = true) (text rest : List Char) :
    maskLiterals (front ++ (quoted quote text ++ rest)) =
      front ++ '"' :: '"' :: maskLiterals rest := by
  rw [maskLiterals_append free, maskLiterals_literal (isLiteral_quoted opening text)]

end SolidityRepl.Fragment
