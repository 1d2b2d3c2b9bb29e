import SolidityRepl.Abi.Function
import SolidityRepl.Proofs.Abi.Schema

/-!
# Functions of one name

An interface may describe several functions of one name, with other inputs each. Asked for by its
name alone, the first of them is found.
-/

namespace SolidityRepl.Abi

variable {name : String} {item : Json} {items : List Json}

/-- An item that describes a function of a name. -/
structure IsFunctionOf (name : String) (item : Json) : Prop where
  type : item.get? "type" = some (.str "function")
  name : item.get? "name" = some (.str name)

/-- A field that may be left out is a text exactly if it is there and is one. -/
theorem getD_same_str {field : Option Json} {s : String} :
    (field.getD .null).same (.str s) = true ↔ field = some (.str s) := by
  cases field with
  | none => simp [Json.same, Json.number?]
  | some v => simp [Json.same_str]

theorem isFunction_obj (name : String) (fields : Keyed Json) :
    ∃ b, isFunction (some name) (.obj fields) = .ok b ∧
      (b = true ↔ IsFunctionOf name (.obj fields)) := by
  refine ⟨_, rfl, ?_⟩
  rw [Bool.and_eq_true]
  refine (and_congr getD_same_str getD_same_str).trans ?_
  constructor
  · rintro ⟨type, name⟩
    exact ⟨type, name⟩
  · intro own
    exact ⟨own.type, own.name⟩

theorem isFunction_own (own : IsFunctionOf name item) : isFunction (some name) item = .ok true := by
  obtain ⟨fields, rfl, -⟩ := exists_fields own.type
  obtain ⟨b, found, iff⟩ := isFunction_obj name fields
  rw [found, iff.mpr own]

theorem isFunction_other {fields : Keyed Json} (other : ¬IsFunctionOf name (.obj fields)) :
    isFunction (some name) (.obj fields) = .ok false := by
  obtain ⟨b, found, iff⟩ := isFunction_obj name fields
  cases b with
  | false => exact found
  | true => exact absurd (iff.mp rfl) other

/-- The first of some items that describes a function of a name. -/
def IsFirst (name : String) (items : List Json) (function : Json) : Prop :=
  IsFunctionOf name function ∧
    ∃ before after, items = before ++ function :: after ∧ ∀ i ∈ before, ¬IsFunctionOf name i

theorem IsFirst.head (own : IsFunctionOf name item) (items : List Json) :
    IsFirst name (item :: items) item := ⟨own, [], items, rfl, List.forall_mem_nil _⟩

theorem isFirst_cons_own (own : IsFunctionOf name item) {function : Json} :
    IsFirst name (item :: items) function ↔ function = item := by
  constructor
  · rintro ⟨-, before, after, split, others⟩
    cases before with
    | nil => exact (List.cons.inj split).1.symm
    | cons i before =>
      obtain ⟨rfl, -⟩ := List.cons.inj split
      exact absurd own (others item List.mem_cons_self)
  · rintro rfl
    exact .head own items

theorem isFirst_cons_other (other : ¬IsFunctionOf name item) {function : Json} :
    IsFirst name (item :: items) function ↔ IsFirst name items function := by
  constructor
  · rintro ⟨own, before, after, split, others⟩
    cases before with
    | nil =>
      obtain ⟨rfl, -⟩ := List.cons.inj split
      exact absurd own other
    | cons i before =>
      refine ⟨own, before, after, (List.cons.inj split).2, ?_⟩
      exact fun j among => others j (List.mem_cons_of_mem i among)
  · rintro ⟨own, before, after, rfl, others⟩
    exact ⟨own, item :: before, after, rfl, List.forall_mem_cons.mpr ⟨other, others⟩⟩

theorem IsFirst.unique {function other : Json} (first : IsFirst name items function)
    (second : IsFirst name items other) : function = other := by
  induction items with
  | nil =>
    obtain ⟨-, before, after, split, -⟩ := first
    cases before <;> cases split
  | cons item items ih =>
    by_cases own : IsFunctionOf name item
    · rw [isFirst_cons_own own] at first second
      rw [first, second]
    · rw [isFirst_cons_other own] at first second
      exact ih first second

/-- **The function that is found is the first of its name**, by induction on the items. -/
theorem findIn?_eq_some (objects : ∀ i ∈ items, ∃ fields, i = .obj fields) {function : Json} :
    findIn? (some name) items = .ok (some function) ↔ IsFirst name items function := by
  induction items with
  | nil =>
    constructor
    · intro found
      cases found
    · rintro ⟨-, before, after, split, -⟩
      cases before <;> cases split
  | cons item items ih =>
    have ih := ih fun i among => objects i (List.mem_cons_of_mem item among)
    obtain ⟨fields, rfl⟩ := objects item List.mem_cons_self
    by_cases own : IsFunctionOf name (.obj fields)
    · rw [isFirst_cons_own own, findIn?, isFunction_own own]
      constructor
      · intro found
        cases found
        rfl
      · rintro rfl
        rfl
    · rw [isFirst_cons_other own, findIn?, isFunction_other own]
      exact ih

/-- One of several functions is the first. -/
theorem exists_isFirst (listed : item ∈ items) (own : IsFunctionOf name item) :
    ∃ function, IsFirst name items function := by
  induction items with
  | nil => cases listed
  | cons i items ih =>
    by_cases here : IsFunctionOf name i
    · exact ⟨i, .head here items⟩
    · have later : item ∈ items := by
        rcases List.mem_cons.mp listed with rfl | later
        · exact absurd own here
        · exact later
      obtain ⟨function, first⟩ := ih later
      exact ⟨function, (isFirst_cons_other here).mpr first⟩

/-- A function without inputs is called by its name with nothing between the brackets. -/
theorem selectorOf_plain (own : IsFunctionOf name item)
    (plain : item.get? "inputs" = some (.arr [])) :
    selectorOf item = .ok (selector (name ++ "()")) := by
  have signature : signatureOf item = .ok (name ++ "()") := by
    rw [signatureOf, required_of_get? plain]
    show (do let name ← item.required "name"; Except.ok (name.shown ++ "(" ++ "" ++ ")")) = _
    rw [required_of_get? own.name]
    show Except.ok (name ++ "(" ++ "" ++ ")") = _
    rw [String.append_assoc, String.append_assoc]
    rfl
  rw [selectorOf, signature]
  rfl

end SolidityRepl.Abi
