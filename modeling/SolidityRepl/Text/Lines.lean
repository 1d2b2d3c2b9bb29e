import SolidityRepl.Text.Blank

/-!
# Lines

Text as a sequence of lines, each with the break that ends it. A line ends at a line feed, at a
carriage return (with the line feed after it, if there is one), at the vertical tab, the form feed,
the three ASCII separators of records, the next-line control, and the line and paragraph
separators.
-/

namespace SolidityRepl.Text

def isLineBreak (c : Char) : Bool :=
  let n := c.toNat
  (0xa ≤ n && n ≤ 0xd) || (0x1c ≤ n && n ≤ 0x1e) || n == 0x85 || n == 0x2028 || n == 0x2029

/-- The lines of a text, each with its break. -/
def lines : List Char → List (List Char)
  | [] => []
  | '\r' :: '\n' :: rest => ['\r', '\n'] :: lines rest
  | c :: rest =>
    if isLineBreak c then [c] :: lines rest
    else match lines rest with
      | [] => [[c]]
      | line :: more => (c :: line) :: more

theorem flatten_lines (cs : List Char) : (lines cs).flatten = cs := by
  fun_induction lines cs <;> simp_all

def isBlankLine (line : List Char) : Bool := line.all isBlank

/-- Every line that is not blank, `width` spaces to the right. -/
def indent (width : Nat) (cs : List Char) : List Char :=
  (lines cs).flatMap fun line =>
    if isBlankLine line then line else List.replicate width ' ' ++ line

end SolidityRepl.Text
