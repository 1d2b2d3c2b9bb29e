/-!
# String literals in a fragment

A string literal stands between two equal quotes. A backslash takes the character after it into the
literal, whatever it is, but a line feed; a quote that no literal begins with is left alone.
-/

namespace SolidityRepl.Fragment

/-- The rest after the closing quote of a literal, if there is one. -/
def literalRest? (quote : Char) : List Char → Option (List Char)
  | [] => none
  | '\\' :: c :: rest => if c == '\n' then none else literalRest? quote rest
  | c :: rest =>
    if c == '\\' then none else if c == quote then some rest else literalRest? quote rest

theorem length_literalRest? {quote : Char} {cs rest : List Char}
    (h : literalRest? quote cs = some rest) : rest.length < cs.length := by
  fun_induction literalRest? quote cs generalizing rest <;> simp_all
  all_goals omega

def isQuote (c : Char) : Bool := c == '"' || c == '\''

/-- The text with every literal replaced by an empty one. -/
def maskLiterals (cs : List Char) : List Char :=
  match cs with
  | [] => []
  | c :: rest =>
    if isQuote c then
      match _h : literalRest? c rest with
      | some after => '"' :: '"' :: maskLiterals after
      | none => c :: maskLiterals rest
    else c :: maskLiterals rest
  termination_by cs.length
  decreasing_by
    · have := length_literalRest? (by assumption); simp only [List.length_cons]; omega
    all_goals simp

end SolidityRepl.Fragment
