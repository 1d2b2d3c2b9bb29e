import SolidityRepl.Text.Blank

/-!
# Comments

A line comment reaches to the end of its line, a block comment to the next end mark. A block comment
that is never ended is no comment.
-/

namespace SolidityRepl.Import

/-- What follows the end of a block comment, if it ends. -/
def afterBlock? : List Char → Option (List Char)
  | '*' :: '/' :: rest => some rest
  | _ :: rest => afterBlock? rest
  | [] => none

theorem length_afterBlock? {cs rest : List Char} (h : afterBlock? cs = some rest) :
    rest.length < cs.length := by
  fun_induction afterBlock? cs with
  | case1 r => cases h; simp only [List.length_cons]; omega
  | case2 c r _ ih => have := ih h; simp; omega
  | case3 => cases h

/-- What follows a comment that starts here, if one does. -/
def afterComment? : List Char → Option (List Char)
  | '/' :: '/' :: rest => some (rest.dropWhile (· != '\n'))
  | '/' :: '*' :: rest => afterBlock? rest
  | _ => none

theorem length_afterComment? {cs rest : List Char} (h : afterComment? cs = some rest) :
    rest.length < cs.length := by
  unfold afterComment? at h
  split at h
  · cases h
    rename_i r
    have := (List.dropWhile_sublist (fun c : Char => c != '\n') (l := r)).length_le
    simp only [List.length_cons]; omega
  · have := length_afterBlock? h
    simp only [List.length_cons]; omega
  · cases h

def withoutComments (cs : List Char) : List Char :=
  match _h : afterComment? cs with
  | some rest => withoutComments rest
  | none => match cs with
    | [] => []
    | c :: rest => c :: withoutComments rest
  termination_by cs.length
  decreasing_by
    · exact length_afterComment? _h
    · simp

end SolidityRepl.Import
