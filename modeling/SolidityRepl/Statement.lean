import SolidityRepl.Failure
import SolidityRepl.Fragment.Rule

/-!
# Statements

A fragment that has been placed. Only a statement of the entry function can yield a value, and only
if its text can be the function's last expression. Until the compiler has been asked, such a value
has the type `bool`; the type is replaced once, and an empty type means that there is no value after
all.
-/

namespace SolidityRepl

/-- A placed fragment. `type` is the type of its value, if it yields one. -/
structure Statement where
  text : String
  scope : Scope
  type : Option String
  inferred : Bool := false
  deriving DecidableEq, Repr, Inhabited

namespace Statement

/-- The type that stands for one not yet known. -/
def placeholder : String := "bool"

def silent : String := ";"

def yieldsNothing (s : Statement) : Bool := s.type.isNone

def returned (s : Statement) : String := if s.yieldsNothing then silent else s.text

/-- The type in the returns clause, empty if there is none. -/
def returnType (s : Statement) : String := s.type.getD ""

/-- A statement made by a rule from a stripped text. -/
def byRule (rule : Fragment.Rule) (cs : List Char) : Statement :=
  let text := rule.finish cs
  let silent := rule != .body || Fragment.yieldsNothing text
  { text := String.ofList text, scope := rule.scope, type := if silent then none else placeholder }

/-- What is placed: the text without white space around it, or `true` if there is none. -/
def content (text : String) : List Char :=
  match Text.strip text.toList with
  | [] => "true".toList
  | cs => cs

/-- A fragment placed where it is told to go, or else by its shape. -/
def ofText (text : String) (scope : Option Scope) : Statement :=
  let cs := content text
  match scope with
  | some s => byRule (.of s) cs
  | none => byRule (.first cs) cs

def shown (s : Statement) : String :=
  "Statement(" ++ Text.quoted s.text ++ ", " ++ s.scope.code ++ ")"

/-- The statement with its type given, which happens once and to statements with a value only. -/
def retype (s : Statement) (type : String) : Except Failure Statement :=
  if s.yieldsNothing || s.inferred then .error (.typeIsFixed s.shown)
  else .ok { s with type := if type.isEmpty then none else some type, inferred := true }

/-- A type is given to a statement that has a value and was given none. -/
theorem retype_eq_ok {statement final : Statement} {type : String} :
    statement.retype type = .ok final ↔
      statement.yieldsNothing = false ∧ statement.inferred = false ∧
        final = { statement with type := if type.isEmpty then none else some type,
                                 inferred := true } := by
  rw [retype]
  split
  · rename_i fixed
    constructor
    · intro given
      cases given
    · rintro ⟨value, fresh, -⟩
      rw [value, fresh] at fixed
      cases fixed
  · rename_i free
    rw [Bool.not_eq_true, Bool.or_eq_false_iff] at free
    constructor
    · intro given
      cases given
      exact ⟨free.1, free.2, rfl⟩
    · rintro ⟨-, -, rfl⟩
      rfl

/-- The text of a value that was given for one. Nothing at all is the empty text. -/
def textOf (v : Json) : Except Failure String :=
  match v with
  | .str s => .ok s
  | v => if v.isVoid then .ok "" else .error .unsupported

/-- The scope of a code, or none if the code is null. -/
def scopeOf (code : Json) : Except Failure (Option Scope) :=
  match code with
  | .null => .ok none
  | .str c => match Scope.ofCode? c with
    | some s => .ok (some s)
    | none => .error (.unknownScope (.str c))
  | c => .error (.unknownScope c)

def ofValues (text code : Json) : Except Failure Statement := do
  let text ← textOf text
  let scope ← scopeOf code
  return ofText text scope

end Statement

end SolidityRepl
