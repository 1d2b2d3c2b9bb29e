import SolidityRepl.Import.Directive
import SolidityRepl.Proofs.Import.Comment
import SolidityRepl.Proofs.Import.Form
import SolidityRepl.Proofs.Text.Search

/-!
# Directives that are found

Directives with nothing but a path, one on each line, are found if there are no comments among them.
What looks like a comment inside of a path is one: two slashes, as after the scheme of an address,
take the rest of the line with them.
-/

namespace SolidityRepl.Import

open Text

/-- Something without quotes. -/
structure Plain (path : List Char) : Prop where
  some : path ≠ []
  quoteless : ∀ c ∈ path, isQuote c = false

def directive (path : List Char) : List Char := "import \"".toList ++ (path ++ "\";".toList)

/-- A directive, its keyword apart. -/
theorem directive_append (path rest : List Char) :
    directive path ++ rest = "import".toList ++ ' ' :: '"' :: (path ++ '"' :: ';' :: rest) := by
  unfold directive
  simp

theorem length_directive (path : List Char) : (directive path).length = path.length + 10 := by
  unfold directive
  simp

def directives (paths : List (List Char)) : List Char := ['\n'].intercalate (paths.map directive)

section

variable {path cs rest : List Char}

/-- What a directive's keyword and names take up. -/
theorem fromQuote?_cut (quoted : fromQuote? cs = some rest) :
    ∃ front, cs = front ++ rest ∧ 7 ≤ front.length := by
  simp only [fromQuote?, Option.bind_eq_bind, Option.bind_eq_some_iff] at quoted
  obtain ⟨more, keyword, quoted⟩ := quoted
  split at quoted
  · rename_i introduces
    cases quoted
    have names : more.takeWhile (!endsNames ·) ≠ [] := by
      intro none
      rw [none] at introduces
      exact absurd introduces (by decide)
    have long := List.length_pos_of_ne_nil names
    have word : "import".toList.length = 6 := rfl
    refine ⟨cs.takeWhile isBlank ++ ("import".toList ++ more.takeWhile (!endsNames ·)), ?_, ?_⟩
    · rw [List.append_assoc, List.append_assoc, List.takeWhile_append_dropWhile,
        append_of_isPrefixOf? keyword]
      exact List.takeWhile_append_dropWhile.symm
    · simp only [List.length_append]
      omega
  · cases quoted

/-- **A directive that is read stands in the text**, with its keyword and quote in front of the path
and with a quote and a semicolon behind it. -/
theorem directive?_cut (read : directive? cs = some (path, rest)) :
    ∃ front back, cs = front ++ (path ++ (back ++ rest)) ∧ 8 ≤ front.length ∧ 2 ≤ back.length := by
  unfold directive? at read
  split at read
  · rename_i quote more quoted
    obtain ⟨front, rfl, long⟩ := fromQuote?_cut quoted
    dsimp only at read
    split at read
    · rename_i quote' more' ends
      split at read
      · obtain ⟨⟨between, after⟩, cut, same⟩ := Option.map_eq_some_iff.mp read
        cases same
        obtain rfl := append_of_splitAtFirst? cut
        have whole : more = more.takeWhile (!isQuote ·) ++ quote' :: (between ++ ';' :: after) := by
          rw [← ends, List.takeWhile_append_dropWhile]
        refine ⟨front ++ [quote], quote' :: (between ++ [';']), ?_, ?_, ?_⟩
        · conv_lhs => rw [whole]
          simp
        · simp only [List.length_append, List.length_singleton]
          omega
        · simp
      · cases read
    · cases read
  · cases read

/-- A directive that imports a path is read as that. -/
theorem directive?_directive (plain : Plain path) :
    directive? (directive path ++ rest) = some (path, rest) := by
  have sound : Directive.Sound ⟨.unit, '"', path⟩ :=
    ⟨fun _ mem => absurd mem List.not_mem_nil, rfl, plain.quoteless⟩
  have text : directive path ++ rest = Directive.text ⟨.unit, '"', path⟩ ++ rest := by
    rw [directive_append, Directive.text_append]
    rfl
  rw [text, sound.read, if_neg plain.some]

end

/-- **Directives, one on each line, are found in their order.** -/
theorem pathsFrom_directives {paths : List (List Char)} (plain : ∀ path ∈ paths, Plain path) :
    pathsFrom true (directives paths) = paths := by
  induction paths with
  | nil => decide +kernel
  | cons path more ih =>
    have read (rest : List Char) : directive? (directive path ++ rest) = some (path, rest) :=
      directive?_directive (plain path List.mem_cons_self)
    cases more with
    | nil =>
      have single : directives [path] = directive path ++ [] := by
        simp [directives]
      rw [single, pathsFrom_of_directive (read []), pathsFrom_nil false]
    | cons next more =>
      have split : directives (path :: next :: more) =
          directive path ++ '\n' :: directives (next :: more) := by
        simp [directives, List.intercalate_cons_cons]
      rw [split, pathsFrom_of_directive (read _), pathsFrom_cons rfl, beq_self_eq_true,
        ih fun path' mem => plain path' (List.mem_cons_of_mem _ mem)]

/-- The characters of some directives of which each has a line. -/
def extent : List (List Char) → Nat
  | [] => 0
  | path :: more => path.length + 11 + extent more

/-- **A source is at least as long as its directives**, with a line feed in front of each but one
that stands at the start. -/
theorem extent_pathsFrom (starts : Bool) (cs : List Char) :
    extent (pathsFrom starts cs) ≤ cs.length + if starts then 1 else 0 := by
  fun_induction pathsFrom starts cs with
  | case1 starts cs path rest read ih =>
    unfold directiveAt? at read
    split at read
    · obtain ⟨front, back, rfl, long, long'⟩ := directive?_cut read
      simp only [extent, List.length_append] at ih ⊢
      simp only [Bool.false_eq_true, if_false, Nat.add_zero] at ih
      simp_all only [if_true]
      omega
    · cases read
  | case2 starts _ => exact Nat.zero_le _
  | case3 starts c rest _ ih =>
    refine ih.trans ?_
    rw [List.length_cons]
    split <;> split <;> omega

theorem length_directives (path : List Char) (more : List (List Char)) :
    (directives (path :: more)).length + 1 = extent (path :: more) := by
  induction more generalizing path with
  | nil => simp [directives, extent, length_directive]
  | cons next more ih =>
    have split : directives (path :: next :: more) =
        directive path ++ '\n' :: directives (next :: more) := by
      simp [directives, List.intercalate_cons_cons]
    have rest := ih next
    simp only [extent] at rest ⊢
    rw [split, List.length_append, List.length_cons, length_directive]
    omega

/-- **What is found stands in the source.** -/
theorem infix_of_mem_pathsFrom {starts : Bool} {path cs : List Char}
    (mem : path ∈ pathsFrom starts cs) : path <:+: cs := by
  fun_induction pathsFrom starts cs with
  | case1 starts cs path' rest read ih =>
    unfold directiveAt? at read
    split at read
    · obtain ⟨front, back, rfl, -⟩ := directive?_cut read
      obtain rfl | mem := List.mem_cons.mp mem
      · exact ⟨front, back ++ rest, by simp⟩
      · exact (ih mem).trans ⟨front ++ (path' ++ back), [], by simp⟩
    · cases read
  | case2 starts _ => exact absurd mem List.not_mem_nil
  | case3 starts c rest _ ih => exact (ih mem).trans (List.suffix_cons c rest).isInfix

/-- **No path that is found has two slashes in a row.** -/
theorem no_slashes_of_mem_pathsOf {source path : String} (mem : path ∈ pathsOf source) :
    ¬['/', '/'] <:+: path.toList := by
  obtain ⟨cs, found, rfl⟩ := List.mem_map.mp mem
  intro slashes
  rw [String.toList_ofList] at slashes
  exact no_slashes _ (slashes.trans (infix_of_mem_pathsFrom found))

/-- **Directives are found exactly if there is no comment among them.** If there is one, too little
is left for all of them. -/
theorem pathsFrom_withoutComments_iff {paths : List (List Char)}
    (plain : ∀ path ∈ paths, Plain path) :
    pathsFrom true (withoutComments (directives paths)) = paths ↔ ¬Commented (directives paths) := by
  constructor
  · intro found commented
    have shorter := length_withoutComments commented
    have room := extent_pathsFrom true (withoutComments (directives paths))
    rw [found] at room
    cases paths with
    | nil => simp [directives] at shorter
    | cons path more =>
      have whole := length_directives path more
      simp only [if_true] at room
      omega
  · intro silent
    rw [withoutComments_eq_iff.mpr silent, pathsFrom_directives plain]

end SolidityRepl.Import
