import SolidityRepl.Version.Clause
import SolidityRepl.Text.Search

/-!
# Version ranges in pragmas

What stands in a version pragma: comparators with a version each, all of which must hold. A bare
version is that version, a caret or a tilde asks for a compatible one, and a single equals sign is
an equality.
-/

namespace SolidityRepl.Range

open Text

/-- The text without a word in front. -/
def without (front : String) (cs : List Char) : List Char :=
  (front.toList.isPrefixOf? cs).getD cs

/-- The range without white space around it and without a leading caret. -/
def normalizedChars (cs : List Char) : List Char := strip (without "^" (strip cs))

/-- The range without white space around it and without a leading caret. -/
def normalized (spec : String) : String := String.ofList (normalizedChars spec.toList)

/-- Three numbers with points between them. -/
def isTriple (cs : List Char) : Bool :=
  let parts := cs.splitOn '.'
  parts.length == 3 && parts.all fun p => !p.isEmpty && p.all Char.isDigit

/-- The text that would be the version, if a range named exactly one. -/
def bare (spec : String) : List Char :=
  without "v" (without "=" (normalizedChars spec.toList))

/-- The version, if a range names exactly one. -/
def pinned? (spec : String) : Option Version :=
  if isTriple (bare spec) then Version.ofChars? (bare spec) else none

/-- A sign of a comparator that may stand apart from its version. -/
def isSign (c : Char) : Bool := c == '<' || c == '>' || c == '=' || c == '^' || c == '~'

/-- The text without the white space after signs; `sign` tells whether the last kept character was
one. -/
def joinSigns (sign : Bool) : List Char → List Char
  | [] => []
  | c :: rest =>
    if sign && isBlank c then joinSigns true rest else c :: joinSigns (isSign c) rest

def clauseText (token : List Char) : List Char :=
  match token with
  | [] => []
  | c :: rest =>
    if c == 'v' then '=' :: '=' :: rest
    else if c.isDigit then '=' :: '=' :: token
    else if c == '=' && rest.head? != some '=' then '=' :: token
    else if c == '^' || c == '~' then '~' :: '=' :: rest
    else token

/-- The clauses of a range. Commas separate clauses, and nothing between commas is no clause; a text
without a word is no range. -/
def clauses? (spec : String) : Option (List Clause) :=
  match words (joinSigns false (strip spec.toList)) with
  | [] => none
  | tokens =>
    let texts := (tokens.flatMap fun t => (clauseText t).splitOn ',').map strip
    (texts.filter fun t => !t.isEmpty).mapM Clause.parse?

/-- A number of the range has too many digits. -/
def isOverlong (spec : String) : Bool :=
  match pinned? spec with
  | some _ => Version.hasOverlong (bare spec)
  | none => ((clauses? spec).getD []).any Clause.isOverlong

/-- What stands behind the words of a version pragma. -/
def afterWords? (cs : List Char) : Option (List Char) :=
  ((("pragma".toList.isPrefixOf? cs).bind blankRest?).bind "solidity".toList.isPrefixOf?)

theorem length_afterWords? {cs rest : List Char} (h : afterWords? cs = some rest) :
    rest.length < cs.length := by
  simp only [afterWords?, Option.bind_eq_some_iff] at h
  obtain ⟨b, ⟨a, ha, hb⟩, hr⟩ := h
  have h1 := congrArg List.length (append_of_isPrefixOf? ha)
  have h2 := length_blankRest? hb
  have h3 := congrArg List.length (append_of_isPrefixOf? hr)
  rw [List.length_append] at h1 h3
  omega

/-- The range in a version pragma that starts here, up to a semicolon, and what follows. Of nothing
but white space the last character counts as the range, unless it is the only one. -/
def pragmaRange? (cs : List Char) : Option (List Char × List Char) :=
  match afterWords? cs with
  | some (c :: more) =>
    let range := (c :: more).takeWhile (· != ';')
    if isBlank c && (2 ≤ range.length || !(stripStart range).isEmpty) then
      some (stripStart range, without ";" ((c :: more).dropWhile (· != ';')))
    else none
  | _ => none

theorem length_without (front : String) (cs : List Char) :
    (without front cs).length ≤ cs.length := by
  unfold without
  cases h : front.toList.isPrefixOf? cs with
  | none => exact Nat.le_refl _
  | some rest =>
    have h1 := congrArg List.length (append_of_isPrefixOf? h)
    rw [List.length_append] at h1
    exact Nat.le_of_add_left_le (Nat.le_of_eq h1)

theorem length_pragmaRange? {cs range rest : List Char} (h : pragmaRange? cs = some (range, rest)) :
    rest.length < cs.length := by
  unfold pragmaRange? at h
  split at h
  · rename_i c more hw
    dsimp only at h
    split at h
    · have h1 := length_afterWords? hw
      have h2 := (List.dropWhile_sublist (fun d : Char => d != ';') (l := c :: more)).length_le
      have h3 := length_without ";" ((c :: more).dropWhile (· != ';'))
      simp only [Option.some.injEq, Prod.mk.injEq] at h
      rw [← h.2]
      omega
    · cases h
  · cases h

def allInSource (cs : List Char) : List (List Char) :=
  match _h : pragmaRange? cs with
  | some (range, rest) => range :: allInSource rest
  | none =>
    match cs with
    | [] => []
    | _ :: more => allInSource more
  termination_by cs.length
  decreasing_by
    · exact length_pragmaRange? _h
    · simp

/-- The range of the last version pragma in a source. -/
def ofSource? (source : String) : Option String :=
  (allInSource source.toList).getLast?.map fun r => String.ofList (strip r)

end SolidityRepl.Range
