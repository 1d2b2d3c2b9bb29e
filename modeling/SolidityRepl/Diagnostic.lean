import SolidityRepl.Json.Shown

/-!
# Diagnostics

What a compiler says about a source: a severity, a category, a message, and the message formatted
for reading. A missing severity is an error, and other missing fields are empty; fields are taken as
the compiler wrote them.
-/

namespace SolidityRepl

structure Diagnostic where
  severity : Json
  category : Json
  message : Json
  formatted : Json
  deriving Inhabited, Repr

namespace Diagnostic

def ofFields (fields : Keyed Json) : Diagnostic where
  severity := (Keyed.get? "severity" fields).getD (.str "error")
  category := (Keyed.get? "type" fields).getD (.str "")
  message := (Keyed.get? "message" fields).getD (.str "")
  formatted := (Keyed.get? "formattedMessage" fields).getD (.str "")

/-- A remark with which no program comes out. -/
def isError (d : Diagnostic) : Bool := d.severity.same (.str "error")

/-- A remark to be passed on to the user. -/
def isWarning (d : Diagnostic) : Bool := d.severity.same (.str "warning")

def isTypeError (d : Diagnostic) : Bool := d.category.same (.str "TypeError")

theorem isTypeError_iff {d : Diagnostic} :
    d.isTypeError = true ↔ d.category = .str "TypeError" := Json.same_str

/-- The formatted message, or else the bare one, if that is a text. -/
def headline? (d : Diagnostic) : Option String :=
  (if d.formatted.isVoid then d.message else d.formatted).text?

/-- The formatted message, if that is a text, or else the category and the bare one. -/
def shown? (d : Diagnostic) : Option String :=
  if d.formatted.isVoid then some (d.category.shown ++ ": " ++ d.message.shown)
  else d.formatted.text?

end Diagnostic

end SolidityRepl
