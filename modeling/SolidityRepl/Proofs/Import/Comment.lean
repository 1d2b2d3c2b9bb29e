import Mathlib.Data.List.Infix
import SolidityRepl.Import.Comment

namespace SolidityRepl.Import

/-- A comment starts here: a line comment, or a block comment that is ended. -/
def Opens (cs : List Char) : Prop :=
  ['/', '/'] <+: cs ∨ ∃ body, '/' :: '*' :: (body ++ ['*', '/']) <+: cs

def Commented (cs : List Char) : Prop :=
  ['/', '/'] <:+: cs ∨ ∃ body, '/' :: '*' :: (body ++ ['*', '/']) <:+: cs

variable {cs : List Char}

theorem commented_iff : Commented cs ↔ ∃ rest, rest <:+ cs ∧ Opens rest := by
  simp only [Commented, Opens, List.infix_iff_prefix_suffix]
  constructor
  · rintro (⟨rest, opens, there⟩ | ⟨body, rest, opens, there⟩)
    · exact ⟨rest, there, .inl opens⟩
    · exact ⟨rest, there, .inr ⟨body, opens⟩⟩
  · rintro ⟨rest, there, opens | ⟨body, opens⟩⟩
    · exact .inl ⟨rest, opens, there⟩
    · exact .inr ⟨body, rest, opens, there⟩

/-- The end of a block comment is found if there is one. -/
theorem afterBlock?_ne_none_iff : afterBlock? cs ≠ none ↔ ∃ body, body ++ ['*', '/'] <+: cs := by
  fun_induction afterBlock? cs with
  | case1 rest => exact iff_of_true (by simp) ⟨[], by simp⟩
  | case2 c rest no ih =>
    rw [ih]
    constructor
    · rintro ⟨body, here⟩
      exact ⟨c :: body, List.cons_prefix_cons.mpr ⟨rfl, here⟩⟩
    · rintro ⟨body, here⟩
      cases body with
      | nil =>
        -- the mark would stand right here
        obtain ⟨back, same⟩ := here
        cases same
        exact absurd rfl (no back rfl)
      | cons d body => exact ⟨body, (List.cons_prefix_cons.mp here).2⟩
  | case3 =>
    refine iff_of_false (by simp) ?_
    rintro ⟨body, here⟩
    simp at here

theorem afterComment?_ne_none_iff : afterComment? cs ≠ none ↔ Opens cs := by
  unfold afterComment?
  split
  · exact iff_of_true (by simp) (.inl (by simp))
  · rename_i rest
    rw [afterBlock?_ne_none_iff]
    constructor
    · rintro ⟨body, here⟩
      exact .inr ⟨body, by simpa using here⟩
    · rintro (slashes | ⟨body, here⟩)
      · simp at slashes
      · exact ⟨body, by simpa using here⟩
  · rename_i line block
    refine iff_of_false (by simp) ?_
    rintro (⟨back, rfl⟩ | ⟨body, back, rfl⟩)
    · exact line back rfl
    · exact block _ rfl

theorem withoutComments_cons {c : Char} (none : afterComment? (c :: cs) = none) :
    withoutComments (c :: cs) = c :: withoutComments cs := by
  rw [withoutComments]
  split
  · rename_i found
    rw [none] at found
    cases found
  · rfl

theorem withoutComments_of_comment {rest : List Char} (comment : afterComment? cs = some rest) :
    withoutComments cs = withoutComments rest := by
  rw [withoutComments]
  split
  · rename_i found
    rw [comment] at found
    cases found
    rfl
  · rename_i none
    rw [comment] at none
    cases none

theorem withoutComments_nil : withoutComments [] = [] := by
  rw [withoutComments]
  rfl

theorem length_withoutComments_le (cs : List Char) : (withoutComments cs).length ≤ cs.length := by
  fun_induction withoutComments cs with
  | case1 cs rest comment ih => exact ih.trans (length_afterComment? comment).le
  | case2 => exact Nat.le_refl _
  | case3 c rest none ih => exact Nat.succ_le_succ ih

/-- **A text with a comment gets shorter.** -/
theorem length_withoutComments (commented : Commented cs) :
    (withoutComments cs).length < cs.length := by
  obtain ⟨rest, there, opens⟩ := commented_iff.mp commented
  clear commented
  fun_induction withoutComments cs with
  | case1 cs after comment ih =>
    exact (length_withoutComments_le after).trans_lt (length_afterComment? comment)
  | case2 =>
    obtain rfl := List.suffix_nil.mp there
    simp [Opens] at opens
  | case3 c cs none ih =>
    obtain rfl | there := List.suffix_cons_iff.mp there
    · exact absurd none (afterComment?_ne_none_iff.mpr opens)
    · exact Nat.succ_lt_succ (ih there)

/-- **A text without a comment is left alone.** -/
theorem withoutComments_eq_iff : withoutComments cs = cs ↔ ¬Commented cs := by
  constructor
  · intro same commented
    have shorter := length_withoutComments commented
    rw [same] at shorter
    exact Nat.lt_irrefl _ shorter
  · rw [commented_iff]
    intro silent
    induction cs with
    | nil => exact withoutComments_nil
    | cons c cs ih =>
      have none : afterComment? (c :: cs) = none := by
        by_contra some
        exact silent ⟨_, List.suffix_rfl, afterComment?_ne_none_iff.mp some⟩
      rw [withoutComments_cons none, ih]
      rintro ⟨rest, there, opens⟩
      exact silent ⟨rest, there.trans (List.suffix_cons c cs), opens⟩

/-- A slash that comes first was first before. -/
theorem head?_of_slash (slash : (withoutComments cs).head? = some '/') : cs.head? = some '/' := by
  cases cs with
  | nil => rwa [withoutComments_nil] at slash
  | cons c cs =>
    cases comment : afterComment? (c :: cs) with
    | none => rwa [withoutComments_cons comment] at slash
    | some rest =>
      obtain ⟨back, same⟩ | ⟨body, back, same⟩ :=
        afterComment?_ne_none_iff.mp (Option.ne_none_iff_exists'.mpr ⟨rest, comment⟩)
      · rw [← same]; rfl
      · rw [← same]; rfl

/-- **What is left has no two slashes in a row**, not even where a comment stood between them. -/
theorem no_slashes (cs : List Char) : ¬['/', '/'] <:+: withoutComments cs := by
  fun_induction withoutComments cs with
  | case1 cs rest comment ih => exact ih
  | case2 => simp
  | case3 c rest none ih =>
    intro slashes
    obtain here | later := List.infix_cons_iff.mp slashes
    · obtain ⟨rfl, ⟨back, same⟩⟩ := List.cons_prefix_cons.mp here
      have next : rest.head? = some '/' := head?_of_slash (by rw [← same]; rfl)
      obtain ⟨more, rfl⟩ := List.head?_eq_some_iff.mp next
      exact absurd none (afterComment?_ne_none_iff.mpr (.inl (by simp)))
    · exact ih later

/-! ## Text and comments side by side -/

/-- Text in which no comment starts. -/
structure Silent (cs : List Char) : Prop where
  lineless : ¬['/', '/'] <:+: cs
  blockless : ¬['/', '*'] <:+: cs

theorem silent_slashless {cs : List Char} (slashless : '/' ∉ cs) : Silent cs where
  lineless there := slashless (there.subset List.mem_cons_self)
  blockless there := slashless (there.subset List.mem_cons_self)

theorem withoutComments_other {c : Char} (other : c ≠ '/') (rest : List Char) :
    withoutComments (c :: rest) = c :: withoutComments rest := by
  refine withoutComments_cons ?_
  unfold afterComment?
  split
  · rename_i same
    exact absurd (List.cons.inj same).1 other
  · rename_i same
    exact absurd (List.cons.inj same).1 other
  · rfl

theorem withoutComments_slashless {front : List Char} (slashless : '/' ∉ front)
    (rest : List Char) : withoutComments (front ++ rest) = front ++ withoutComments rest := by
  induction front with
  | nil => rfl
  | cons c front ih =>
    have other : c ≠ '/' := fun same => slashless (same ▸ List.mem_cons_self)
    rw [List.cons_append, withoutComments_other other,
      ih fun mem => slashless (List.mem_cons_of_mem _ mem), List.cons_append]

/-- **Text in which no comment starts stays**, if what follows it makes none start at its end. -/
theorem Silent.withoutComments_append {front : List Char} (silent : Silent front) {c : Char}
    (noSlash : c ≠ '/') (noStar : c ≠ '*') (rest : List Char) :
    withoutComments (front ++ c :: rest) = front ++ c :: withoutComments rest := by
  induction front with
  | nil => exact withoutComments_other noSlash rest
  | cons d front ih =>
    have rest' : Silent front :=
      ⟨fun there => silent.lineless (there.trans (List.suffix_cons d front).isInfix),
        fun there => silent.blockless (there.trans (List.suffix_cons d front).isInfix)⟩
    have none : afterComment? (d :: (front ++ c :: rest)) = none := by
      cases front with
      | nil => simp [afterComment?, noSlash, noStar]
      | cons e front =>
        unfold afterComment?
        split
        · rename_i same
          simp only [List.cons_append, List.cons.injEq] at same
          obtain ⟨rfl, rfl, -⟩ := same
          exact absurd ⟨[], front, rfl⟩ silent.lineless
        · rename_i same
          simp only [List.cons_append, List.cons.injEq] at same
          obtain ⟨rfl, rfl, -⟩ := same
          exact absurd ⟨[], front, rfl⟩ silent.blockless
        · rfl
    rw [List.cons_append, withoutComments_cons none, ih rest', List.cons_append]

/-- **A line comment goes**, whatever it says, and leaves the end of its line. -/
theorem withoutComments_line {content : List Char} (oneLine : '\n' ∉ content) (rest : List Char) :
    withoutComments ('/' :: '/' :: (content ++ '\n' :: rest)) = '\n' :: withoutComments rest := by
  have inside : ∀ c ∈ content, (c != '\n') = true := fun c mem =>
    bne_iff_ne.mpr fun same => oneLine (same ▸ mem)
  have comment : afterComment? ('/' :: '/' :: (content ++ '\n' :: rest)) = some ('\n' :: rest) := by
    rw [afterComment?, List.dropWhile_append_of_pos inside]
    rfl
  rw [withoutComments_of_comment comment, withoutComments_other (by decide)]

theorem afterBlock?_append {content : List Char} (closed : ¬['*', '/'] <:+: content)
    (rest : List Char) : afterBlock? (content ++ '*' :: '/' :: rest) = some rest := by
  induction content with
  | nil => rfl
  | cons c content ih =>
    have inner := ih fun there => closed (there.trans (List.suffix_cons c content).isInfix)
    rw [List.cons_append]
    unfold afterBlock?
    split
    · rename_i same
      -- the end mark would begin with the last character of the content, or stand inside of it
      cases content with
      | nil => simp at same
      | cons d content =>
        simp only [List.cons_append, List.cons.injEq] at same
        obtain ⟨rfl, rfl, -⟩ := same
        exact absurd ⟨[], content, rfl⟩ closed
    · rename_i same
      obtain ⟨-, rfl⟩ := List.cons.inj same
      exact inner
    · rename_i none
      cases none

/-- **A block comment goes**, whatever it says. -/
theorem withoutComments_block {content : List Char} (closed : ¬['*', '/'] <:+: content)
    (rest : List Char) :
    withoutComments ('/' :: '*' :: (content ++ '*' :: '/' :: rest)) = withoutComments rest :=
  withoutComments_of_comment (afterBlock?_append closed rest)

end SolidityRepl.Import
