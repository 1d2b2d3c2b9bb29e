/-!
# White space

White space of all scripts, and the two operations on text that are defined by it: dropping it at
both ends, and cutting text into the words it separates.
-/

namespace SolidityRepl.Text

/-- White space: the ASCII controls that separate, the space, and the spaces and line and
paragraph separators of other scripts. The zero-width space and the byte order mark are not. -/
def isBlank (c : Char) : Bool :=
  let n := c.toNat
  (0x9 ≤ n && n ≤ 0xd) || (0x1c ≤ n && n ≤ 0x20) || n == 0x85 || n == 0xa0 || n == 0x1680 ||
    (0x2000 ≤ n && n ≤ 0x200a) || n == 0x2028 || n == 0x2029 || n == 0x202f || n == 0x205f ||
    n == 0x3000

def stripStart (cs : List Char) : List Char := cs.dropWhile isBlank

theorem length_stripStart (cs : List Char) : (stripStart cs).length ≤ cs.length :=
  (List.dropWhile_sublist isBlank).length_le

/-- The rest after white space, of which there must be some. -/
def blankRest? : List Char → Option (List Char)
  | [] => none
  | c :: rest => if isBlank c then some (stripStart rest) else none

theorem length_blankRest? {cs rest : List Char} (h : blankRest? cs = some rest) :
    rest.length < cs.length := by
  cases cs with
  | nil => cases h
  | cons c r =>
    simp only [blankRest?] at h
    split at h
    · cases h
      exact Nat.lt_succ_of_le (length_stripStart r)
    · cases h

def stripEnd (cs : List Char) : List Char := (cs.reverse.dropWhile isBlank).reverse

def strip (cs : List Char) : List Char := stripEnd (stripStart cs)

def words (cs : List Char) : List (List Char) :=
  (cs.splitOnP isBlank).filter (fun w => !w.isEmpty)

def stripped (s : String) : String := String.ofList (strip s.toList)

end SolidityRepl.Text
