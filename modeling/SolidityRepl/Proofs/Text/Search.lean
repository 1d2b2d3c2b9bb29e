import Mathlib.Data.List.Infix
import SolidityRepl.Text.Search

namespace SolidityRepl.Text

variable {α : Type} {read : Option Char → List Char → Option α}

/-- The character before a place is the last one of what stands in front of it. -/
theorem getLast?_cons_or (before : Option Char) (c : Char) (front : List Char) :
    (c :: front).getLast?.or before = front.getLast?.or (some c) := by
  cases front with
  | nil => rfl
  | cons d front => simp [List.getLast?_cons]

theorem firstMatch_eq_none_iff {before : Option Char} {cs : List Char} :
    firstMatch read before cs = none ↔
      ∀ front rest, cs = front ++ rest → read (front.getLast?.or before) rest = none := by
  induction cs generalizing before with
  | nil =>
    simp only [firstMatch, List.nil_eq, List.append_eq_nil_iff]
    constructor
    · rintro silent _ _ ⟨rfl, rfl⟩
      exact silent
    · intro silent
      exact silent [] [] ⟨rfl, rfl⟩
  | cons c cs ih =>
    constructor
    · intro silent front rest cut
      simp only [firstMatch] at silent
      split at silent
      · cases silent
      · rename_i here
        obtain ⟨rfl, rfl⟩ | ⟨front, rfl, same⟩ := List.cons_eq_append_iff.mp cut
        · exact here
        · rw [getLast?_cons_or]
          exact ih.mp silent front rest same
    · intro silent
      have here : read before (c :: cs) = none := silent [] (c :: cs) rfl
      have later : firstMatch read (some c) cs = none := ih.mpr fun front rest cut => by
        rw [← getLast?_cons_or before]
        exact silent (c :: front) rest (by rw [cut, List.cons_append])
      simp only [firstMatch, here, later]

theorem firstMatch_eq_some_iff {before : Option Char} {cs : List Char} {a : α} :
    firstMatch read before cs = some a ↔
      ∃ front rest, cs = front ++ rest ∧ read (front.getLast?.or before) rest = some a ∧
        ∀ front' rest', cs = front' ++ rest' → front'.length < front.length →
          read (front'.getLast?.or before) rest' = none := by
  induction cs generalizing before with
  | nil =>
    simp only [firstMatch, List.nil_eq, List.append_eq_nil_iff]
    constructor
    · intro found
      refine ⟨[], [], ⟨rfl, rfl⟩, found, ?_⟩
      rintro _ _ - short
      cases short
    · rintro ⟨_, _, ⟨rfl, rfl⟩, found, -⟩
      exact found
  | cons c cs ih =>
    simp only [firstMatch]
    cases here : read before (c :: cs) with
    | some b =>
      constructor
      · rintro ⟨⟩
        refine ⟨[], c :: cs, rfl, here, ?_⟩
        rintro _ _ - short
        cases short
      · rintro ⟨front, rest, cut, found, first⟩
        obtain ⟨rfl, rfl⟩ | ⟨front, rfl, same⟩ := List.cons_eq_append_iff.mp cut
        · exact here.symm.trans found
        · -- the reader has an answer before that place
          have silent : read before (c :: cs) = none := first [] (c :: cs) rfl (by simp)
          rw [here] at silent
          cases silent
    | none =>
      show firstMatch read (some c) cs = some a ↔ _
      rw [ih]
      constructor
      · rintro ⟨front, rest, cut, found, first⟩
        refine ⟨c :: front, rest, by rw [cut, List.cons_append], ?_,
          fun front' rest' cut' short => ?_⟩
        · rwa [getLast?_cons_or]
        · obtain ⟨rfl, rfl⟩ | ⟨front', rfl, same⟩ := List.cons_eq_append_iff.mp cut'
          · exact here
          · rw [getLast?_cons_or]
            exact first front' rest' same (Nat.lt_of_succ_lt_succ short)
      · rintro ⟨front, rest, cut, found, first⟩
        obtain ⟨rfl, rfl⟩ | ⟨front, rfl, same⟩ := List.cons_eq_append_iff.mp cut
        · cases here.symm.trans found
        · rw [getLast?_cons_or] at found
          refine ⟨front, rest, same, found, fun front' rest' cut' short => ?_⟩
          rw [← getLast?_cons_or before]
          exact first (c :: front') rest' (by rw [cut', List.cons_append])
            (Nat.succ_lt_succ short)

theorem beforeLast?_eq_none_iff {word cs : List Char} :
    beforeLast? word cs = none ↔ ∀ front rest, cs ≠ front ++ (word ++ rest) := by
  induction cs with
  | nil =>
    simp only [beforeLast?, List.isEmpty_iff, ite_eq_right_iff, reduceCtorEq, imp_false]
    constructor
    · rintro full front rest cut
      exact full (List.append_eq_nil_iff.mp (List.append_eq_nil_iff.mp cut.symm).2).1
    · rintro absent rfl
      exact absent [] [] rfl
  | cons c cs ih =>
    simp only [beforeLast?]
    constructor
    · intro silent front rest cut
      split at silent
      · cases silent
      · rename_i later
        obtain ⟨rfl, here⟩ | ⟨front, rfl, same⟩ := List.cons_eq_append_iff.mp cut
        · rw [if_pos (List.isPrefixOf_iff_prefix.mpr ⟨rest, here⟩)] at silent
          cases silent
        · exact ih.mp later front rest same
    · intro absent
      have later : beforeLast? word cs = none := ih.mpr fun front rest cut =>
        absent (c :: front) rest (by rw [cut, List.cons_append])
      have here : ¬word.isPrefixOf (c :: cs) = true := by
        rw [List.isPrefixOf_iff_prefix]
        rintro ⟨rest, cut⟩
        exact absent [] rest cut.symm
      simp only [later, if_neg here]

theorem beforeLast?_eq_some_iff {word cs front : List Char} :
    beforeLast? word cs = some front ↔
      (∃ rest, cs = front ++ (word ++ rest)) ∧
        ∀ front' rest', cs = front' ++ (word ++ rest') → front'.length ≤ front.length := by
  induction cs generalizing front with
  | nil =>
    simp only [beforeLast?, List.isEmpty_iff, Option.ite_none_right_eq_some, Option.some.injEq,
      List.nil_eq, List.append_eq_nil_iff]
    constructor
    · rintro ⟨rfl, rfl⟩
      exact ⟨⟨[], rfl, rfl, rfl⟩, fun _ _ cut => by rw [cut.1]⟩
    · rintro ⟨⟨_, rfl, rfl, _⟩, -⟩
      exact ⟨rfl, rfl⟩
  | cons c cs ih =>
    simp only [beforeLast?]
    cases later : beforeLast? word cs with
    | some back =>
      obtain ⟨⟨rest, cut⟩, last⟩ := ih.mp later
      constructor
      · rintro ⟨⟩
        refine ⟨⟨rest, by rw [cut, List.cons_append]⟩, fun front' rest' cut' => ?_⟩
        obtain ⟨rfl, -⟩ | ⟨front', rfl, same⟩ := List.cons_eq_append_iff.mp cut'
        · exact Nat.zero_le _
        · exact Nat.succ_le_succ (last front' rest' same)
      · rintro ⟨⟨rest', cut'⟩, last'⟩
        have long := last' (c :: back) rest (by rw [cut, List.cons_append])
        obtain ⟨rfl, -⟩ | ⟨front', rfl, same⟩ := List.cons_eq_append_iff.mp cut'
        · cases long
        · have found : beforeLast? word cs = some front' :=
            ih.mpr ⟨⟨rest', same⟩, fun front'' rest'' cut'' => by
              have short := last' (c :: front'') rest'' (by rw [cut'', List.cons_append])
              exact Nat.le_of_succ_le_succ short⟩
          rw [later] at found
          cases found
          rfl
    | none =>
      have absent := beforeLast?_eq_none_iff.mp later
      simp only [Option.ite_none_right_eq_some, Option.some.injEq, List.isPrefixOf_iff_prefix]
      constructor
      · rintro ⟨⟨rest, cut⟩, rfl⟩
        refine ⟨⟨rest, cut.symm⟩, fun front' rest' cut' => ?_⟩
        obtain ⟨rfl, -⟩ | ⟨front', rfl, same⟩ := List.cons_eq_append_iff.mp cut'
        · exact Nat.le_refl _
        · exact absurd same (absent front' rest')
      · rintro ⟨⟨rest, cut⟩, -⟩
        obtain ⟨rfl, here⟩ | ⟨front, rfl, same⟩ := List.cons_eq_append_iff.mp cut
        · exact ⟨⟨rest, here⟩, rfl⟩
        · exact absurd same (absent front rest)

theorem append_of_splitAtFirst? {stop : Char} {cs front after : List Char}
    (cut : splitAtFirst? stop cs = some (front, after)) : cs = front ++ stop :: after := by
  induction cs generalizing front with
  | nil => cases cut
  | cons c cs ih =>
    simp only [splitAtFirst?] at cut
    split at cut
    · rename_i here
      cases cut
      rw [eq_of_beq here, List.nil_append]
    · obtain ⟨⟨front', after'⟩, later, same⟩ := Option.map_eq_some_iff.mp cut
      cases same
      rw [ih later, List.cons_append]

/-- A word stands on one side of any character that is none of its own. -/
theorem cut_beside {word a b front rest : List Char} {c : Char} (absent : c ∉ word)
    (cut : a ++ c :: b = front ++ (word ++ rest)) :
    (∃ more, a = front ++ (word ++ more)) ∨
      ∃ more, front = a ++ c :: more ∧ b = more ++ (word ++ rest) := by
  obtain ⟨more, rfl, right⟩ | ⟨more, rfl, left⟩ := List.append_eq_append_iff.mp cut
  · cases more with
    | nil =>
      cases word with
      | nil => exact .inl ⟨[], by simp⟩
      | cons w word =>
        obtain ⟨rfl, -⟩ := List.cons.inj right
        exact absurd List.mem_cons_self absent
    | cons d more =>
      obtain ⟨rfl, right'⟩ := List.cons.inj right
      exact .inr ⟨more, rfl, right'⟩
  · obtain ⟨most, rfl, -⟩ | ⟨most, rfl, right⟩ := List.append_eq_append_iff.mp left
    · exact .inl ⟨most, rfl⟩
    · cases most with
      | nil => exact .inl ⟨[], by simp⟩
      | cons d most =>
        obtain ⟨rfl, -⟩ := List.cons.inj right
        exact absurd (by simp) absent

/-- A word occurs if it stands somewhere. -/
theorem occurs_iff {word cs : List Char} : occurs word cs = true ↔ word <:+: cs := by
  rw [occurs, Option.isSome_iff_ne_none, Ne, firstMatch_eq_none_iff]
  simp only [ite_eq_right_iff, reduceCtorEq, imp_false, List.isPrefixOf_iff_prefix, not_forall,
    not_not]
  constructor
  · rintro ⟨front, _, rfl, rest, rfl⟩
    exact ⟨front, rest, List.append_assoc ..⟩
  · rintro ⟨front, rest, rfl⟩
    exact ⟨front, word ++ rest, List.append_assoc .., rest, rfl⟩

end SolidityRepl.Text
