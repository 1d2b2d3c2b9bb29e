import SolidityRepl.Import.Comment
import SolidityRepl.Text.Search

/-!
# Import directives

A directive is the first thing on its line. It says which path it imports between quotes, either at
once or after the names it imports and `from`, and it ends with a semicolon.
-/

namespace SolidityRepl.Import

open Text

def isQuote (c : Char) : Bool := c == '"' || c == '\''

def endsNames (c : Char) : Bool := isQuote c || c == ';'

def areNames (cs : List Char) : Bool :=
  2 ≤ cs.length && (cs.head?.any isBlank) && (cs.getLast?.any isBlank)

/-- What may stand between the keyword and the path: white space, or also names and `from`. -/
def introducesPath (cs : List Char) : Bool :=
  let front := stripEnd cs
  if front.length == cs.length then false
  else front.isEmpty ||
    ("from".toList.isSuffixOf front && areNames (front.take (front.length - 4)))

/-- What stands from the opening quote of a directive's path on. -/
def fromQuote? (cs : List Char) : Option (List Char) := do
  let rest ← "import".toList.isPrefixOf? (stripStart cs)
  if introducesPath (rest.takeWhile (!endsNames ·)) then some (rest.dropWhile (!endsNames ·))
  else none

/-- The path of a directive that starts here, and what follows the directive. -/
def directive? (cs : List Char) : Option (List Char × List Char) :=
  match fromQuote? cs with
  | some (quote :: rest) =>
    let path := rest.takeWhile (!isQuote ·)
    match rest.dropWhile (!isQuote ·) with
    | _ :: rest =>
      if isQuote quote && !path.isEmpty then
        (splitAtFirst? ';' rest).map fun (_, rest) => (path, rest)
      else none
    | [] => none
  | _ => none

theorem length_fromQuote? {cs rest : List Char} (h : fromQuote? cs = some rest) :
    rest.length ≤ cs.length := by
  simp only [fromQuote?, Option.bind_eq_bind, Option.bind_eq_some_iff] at h
  obtain ⟨r, hr, h⟩ := h
  split at h
  · cases h
    have h1 := (List.dropWhile_sublist (fun c => !endsNames c) (l := r)).length_le
    have h2 := (List.dropWhile_sublist isBlank (l := cs)).length_le
    have h3 : "import".toList ++ r = stripStart cs := append_of_isPrefixOf? hr
    have h4 := congrArg List.length h3
    simp only [stripStart, List.length_append] at h4
    omega
  · cases h

theorem length_directive? {cs path rest : List Char} (h : directive? cs = some (path, rest)) :
    rest.length < cs.length := by
  unfold directive? at h
  split at h
  · rename_i quote r hq
    have h1 := length_fromQuote? hq
    have h2 := (List.dropWhile_sublist (fun c => !isQuote c) (l := r)).length_le
    simp only [List.length_cons] at h1
    split at h
    · rename_i heq
      rw [heq] at h2
      dsimp only at h
      split at h
      · cases hs : splitAtFirst? ';' ‹List Char› with
        | none => simp [hs] at h
        | some p =>
          have := length_splitAtFirst? hs
          simp only [hs, Option.map_some, Option.some.injEq, Prod.mk.injEq] at h
          rw [← h.2]
          simp only [List.length_cons] at h2
          omega
      · cases h
    · cases h
  · cases h

/-- The directive that starts here, if a line starts here. -/
def directiveAt? (starts : Bool) (cs : List Char) : Option (List Char × List Char) :=
  if starts then directive? cs else none

theorem length_directiveAt? {starts : Bool} {cs path rest : List Char}
    (h : directiveAt? starts cs = some (path, rest)) : rest.length < cs.length := by
  unfold directiveAt? at h
  split at h
  · exact length_directive? h
  · cases h

/-- The paths of the directives from here on. `starts` tells whether a line starts here. -/
def pathsFrom (starts : Bool) (cs : List Char) : List (List Char) :=
  match _h : directiveAt? starts cs with
  | some (path, rest) => path :: pathsFrom false rest
  | none => match cs with
    | [] => []
    | c :: rest => pathsFrom (c == '\n') rest
  termination_by cs.length
  decreasing_by
    · exact length_directiveAt? _h
    · simp

def pathsOf (source : String) : List String :=
  (pathsFrom true (withoutComments source.toList)).map String.ofList

end SolidityRepl.Import
