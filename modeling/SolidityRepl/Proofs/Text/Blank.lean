import Mathlib.Data.List.DropRight
import SolidityRepl.Text.Blank

namespace SolidityRepl.Text

/-- Neither the first nor the last character is white space. -/
structure Trim (cs : List Char) : Prop where
  first : ∀ c, cs.head? = some c → isBlank c = false
  last : ∀ c, cs.getLast? = some c → isBlank c = false

theorem stripEnd_eq (cs : List Char) : stripEnd cs = cs.rdropWhile isBlank := rfl

theorem stripStart_shown {cs : List Char} (shown : ∀ c ∈ cs.head?, isBlank c = false) :
    stripStart cs = cs := by
  cases cs with
  | nil => rfl
  | cons c cs => simp [stripStart, shown c rfl]

theorem strip_of_trim {cs : List Char} (trim : Trim cs) : strip cs = cs := by
  rw [strip, stripStart_shown trim.first, stripEnd_eq, List.rdropWhile_eq_self_iff]
  intro some
  rw [trim.last _ (List.getLast?_eq_some_getLast some)]
  exact Bool.false_ne_true

theorem trim_strip (cs : List Char) : Trim (strip cs) where
  first c first := by
    -- what is left begins as it did before the end was taken away
    obtain ⟨back, whole⟩ : strip cs <+: stripStart cs := List.rdropWhile_prefix isBlank _
    have same : (stripStart cs).head? = some c := by
      rw [← whole, List.head?_append, first]
      rfl
    have begins := List.head?_dropWhile_not isBlank cs
    rw [stripStart] at same
    simpa [same] using begins
  last c last := by
    have some : strip cs ≠ [] := by
      rintro none
      rw [none] at last
      cases last
    have ends := List.rdropWhile_last_not isBlank (stripStart cs) some
    rw [List.getLast?_eq_some_getLast some] at last
    cases last
    exact Bool.not_eq_true _ ▸ ends

def Blank (cs : List Char) : Prop := ∀ c ∈ cs, isBlank c = true

instance (cs : List Char) : Decidable (Blank cs) :=
  List.decidableBAll (fun c => isBlank c = true) cs

theorem blank_nil : Blank [] := by
  rintro _ ⟨⟩

theorem blank_space : Blank [' '] := by decide

theorem Blank.append {front back : List Char} (first : Blank front) (second : Blank back) :
    Blank (front ++ back) := by
  intro c among
  rcases List.mem_append.mp among with among | among
  · exact first c among
  · exact second c among

theorem stripStart_append {gap : List Char} (blank : Blank gap) (cs : List Char) :
    stripStart (gap ++ cs) = stripStart cs := List.dropWhile_append_of_pos blank

theorem stripEnd_append {gap : List Char} (blank : Blank gap) (cs : List Char) :
    stripEnd (cs ++ gap) = stripEnd cs := by
  rw [stripEnd, List.reverse_append, List.dropWhile_append_of_pos, stripEnd]
  intro c among
  exact blank c (List.mem_reverse.mp among)

/-- A text is what stripping leaves of it, with white space around. -/
theorem exists_strip (cs : List Char) :
    ∃ lead trail, Blank lead ∧ Blank trail ∧ cs = lead ++ (strip cs ++ trail) := by
  have front : cs.takeWhile isBlank ++ stripStart cs = cs := List.takeWhile_append_dropWhile
  have back : strip cs ++ ((stripStart cs).reverse.takeWhile isBlank).reverse = stripStart cs := by
    have whole := congrArg List.reverse
      (List.takeWhile_append_dropWhile (p := isBlank) (l := (stripStart cs).reverse))
    rwa [List.reverse_append, List.reverse_reverse] at whole
  refine ⟨cs.takeWhile isBlank, ((stripStart cs).reverse.takeWhile isBlank).reverse, ?_, ?_, ?_⟩
  · intro c among
    exact List.mem_takeWhile_imp among
  · intro c among
    exact List.mem_takeWhile_imp (List.mem_reverse.mp among)
  · rw [back, front]

/-- White space around a text is stripped. -/
theorem strip_padded {lead cs trail : List Char} (before : Blank lead) (after : Blank trail)
    (trim : Trim cs) : strip (lead ++ (cs ++ trail)) = cs := by
  rw [strip, stripStart_append before]
  cases cs with
  | nil =>
    rw [List.nil_append, ← List.append_nil trail, stripStart_append after]
    rfl
  | cons c rest =>
    have start : stripStart (c :: rest ++ trail) = c :: rest ++ trail :=
      stripStart_shown trim.first
    have whole : strip (c :: rest) = stripEnd (c :: rest) := by
      rw [strip, stripStart_shown trim.first]
    rw [start, stripEnd_append after, ← whole, strip_of_trim trim]

/-- White space before words makes no difference. -/
theorem words_padded {gap : List Char} (blank : Blank gap) (cs : List Char) :
    words (gap ++ cs) = words cs := by
  induction gap with
  | nil => rfl
  | cons c gap ih =>
    rw [← ih fun d among => blank d (List.mem_cons_of_mem c among)]
    rw [List.cons_append, words, List.splitOnP_cons_eq_if_modifyHead,
      if_pos (blank c List.mem_cons_self)]
    rfl

/-- A word is cut off before white space and at the end. -/
theorem words_append {word rest : List Char} (nonempty : word ≠ [])
    (solid : ∀ c ∈ word, isBlank c = false) (ends : ∀ c, rest.head? = some c → isBlank c = true) :
    words (word ++ rest) = word :: words rest := by
  have kept (more : List (List Char)) : (word :: more).filter (fun w => !w.isEmpty) =
      word :: more.filter (fun w => !w.isEmpty) :=
    List.filter_cons_of_pos (by simpa using nonempty)
  cases rest with
  | nil =>
    rw [List.append_nil, words, List.splitOnP_eq_singleton solid, kept]
    rfl
  | cons c rest =>
    have blank : Blank [c] := fun d among => List.mem_singleton.mp among ▸ ends c rfl
    rw [words, List.splitOnP_append_cons_of_forall_mem solid c (ends c rfl),
      kept]
    exact congrArg _ (words_padded blank rest).symm

end SolidityRepl.Text
