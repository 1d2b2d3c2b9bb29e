import SolidityRepl.Run
import SolidityRepl.Proofs.ReturnType

namespace SolidityRepl.Desk

open ReturnType

/-- The message of the last remark about types. -/
def LastComplaint (remarks : List Diagnostic) (message : Json) : Prop :=
  ∃ before complaint after, remarks = before ++ complaint :: after ∧
    complaint.category = .str "TypeError" ∧
    (∀ remark ∈ after, remark.category ≠ .str "TypeError") ∧ complaint.message = message

/-- A statement with a value whose type may still be given. -/
def Open (statement : Statement) : Prop := statement.type ≠ none ∧ statement.inferred = false

/-- A message about the number of returned values, in letters of either case. -/
def Counts (message : String) : Prop :=
  "different number of arguments in return statement".toList <:+: message.toList.map foldCase

/-- A message in which no type stands between the compiler's words. -/
def Silent (message : String) : Prop := ∀ front type, ¬Sentence message.toList front type

/-- The last complaint says a type, or it is about the number of values and the called function is
declared in the program. -/
inductive Teaches (statement : Statement) (source : String) (remarks : List Diagnostic) :
    String → Prop
  | said {message : String} {words type : List Char} (isOpen : Open statement)
      (last : LastComplaint remarks (.str message)) (spoken : Says message.toList words)
      (means : Declares (Text.strip words) type) :
      Teaches statement source remarks (String.ofList type)
  | counted {message values : String} (isOpen : Open statement)
      (last : LastComplaint remarks (.str message)) (silent : Silent message)
      (counts : Counts message) (found : lookUp? statement.text source = some values) :
      Teaches statement source remarks values

/-- The last complaint has neither of the two forms. -/
def Baffles (statement : Statement) (remarks : List Diagnostic) : Prop :=
  Open statement ∧ ∃ message, LastComplaint remarks (.str message) ∧ Silent message ∧
    ¬Counts message

/-- The message of the last complaint is no text. -/
def Mumbles (statement : Statement) (remarks : List Diagnostic) : Prop :=
  Open statement ∧ ∃ message, LastComplaint remarks message ∧ ∀ text, message ≠ .str text

theorem lastComplaint_iff {remarks : List Diagnostic} {message : Json} :
    LastComplaint remarks message ↔
      ∃ complaint, (remarks.filter Diagnostic.isTypeError).getLast? = some complaint ∧
        complaint.message = message := by
  have other {remark : Diagnostic} :
      remark.isTypeError = false ↔ remark.category ≠ .str "TypeError" := by
    rw [← Bool.not_eq_true, Diagnostic.isTypeError_iff]
  simp only [List.getLast?_filter, List.find?_eq_some_iff_append, List.reverse_eq_append_iff,
    List.reverse_cons, List.append_assoc, List.singleton_append, Bool.not_eq_true',
    Diagnostic.isTypeError_iff, other]
  constructor
  · rintro ⟨before, complaint, after, rfl, isComplaint, last, same⟩
    exact ⟨complaint, ⟨isComplaint, after.reverse, before.reverse, by simp, by simpa using last⟩,
      same⟩
  · rintro ⟨complaint, ⟨isComplaint, after, before, rfl, last⟩, same⟩
    exact ⟨before.reverse, complaint, after.reverse, rfl, isComplaint, by simpa using last, same⟩

theorem LastComplaint.unique {remarks : List Diagnostic} {message message' : Json}
    (h : LastComplaint remarks message) (h' : LastComplaint remarks message') :
    message = message' := by
  obtain ⟨complaint, found, rfl⟩ := lastComplaint_iff.mp h
  obtain ⟨complaint', found', rfl⟩ := lastComplaint_iff.mp h'
  rw [found] at found'
  cases found'
  rfl

/-- **A complaint that is one sentence teaches its type.** -/
theorem teaches_plain {statement : Statement} (source : String) {remarks : List Diagnostic}
    {type rest : List Char} (isOpen : Open statement)
    (last : LastComplaint remarks
      (.str (String.ofList (beforeType ++ (type ++ (afterType ++ rest))))))
    (fine : '\n' ∉ type) (once : ¬afterType <:+: rest.takeWhile (· != '\n')) :
    Teaches statement source remarks (declared (String.ofList type)) := by
  rw [declared, String.toList_ofList]
  refine .said isOpen last ?_ (declaredChars_eq_iff.mp rfl)
  rw [String.toList_ofList]
  exact says_plain fine once

theorem counts_iff {message : String} :
    isCountMessage message.toList = true ↔ Counts message := Text.occurs_iff

variable {statement : Statement} {source : String} {remarks : List Diagnostic}

theorem open_iff : Open statement ↔ (statement.yieldsNothing || statement.inferred) = false := by
  rw [Open, Bool.or_eq_false_iff, Statement.yieldsNothing, Option.isNone_eq_false_iff,
    Option.isSome_iff_ne_none]

/-- What is made of the last complaint of an open statement. -/
theorem lesson_of_complaint {message : Json} (isOpen : Open statement)
    (last : LastComplaint remarks message) :
    lesson statement source remarks = lessonOf statement source message := by
  obtain ⟨complaint, found, rfl⟩ := lastComplaint_iff.mp last
  simp only [lesson, found, open_iff.mp isOpen, Bool.false_eq_true, if_false]

theorem lessonOf_silent {message : String} (silent : Silent message) :
    lessonOf statement source (.str message) =
      if isCountMessage message.toList then
        match lookUp? statement.text source with
        | some values => .ok (.type values)
        | none => .ok .wrong
      else .ok (.unclear (.str message)) := by
  simp only [lessonOf, Json.asText, bind, Except.bind, ofMessage?_eq_none_iff.mpr silent]
  rfl

theorem lesson_of_teaches {type : String} (teaches : Teaches statement source remarks type) :
    lesson statement source remarks = .ok (.type type) := by
  cases teaches with
  | said isOpen last spoken means =>
    rw [lesson_of_complaint isOpen last]
    simp only [lessonOf, Json.asText, bind, Except.bind, ofMessage?_eq_some_iff.mpr spoken,
      declaredChars_eq_iff.mpr means]
    rfl
  | counted isOpen last silent counts found =>
    rw [lesson_of_complaint isOpen last, lessonOf_silent silent, if_pos (counts_iff.mpr counts),
      found]

theorem lesson_of_baffles (source : String) (baffles : Baffles statement remarks) :
    ∃ message, lesson statement source remarks = .ok (.unclear message) := by
  obtain ⟨isOpen, message, last, silent, other⟩ := baffles
  refine ⟨.str message, ?_⟩
  rw [lesson_of_complaint isOpen last, lessonOf_silent silent,
    if_neg (fun count => other (counts_iff.mp count))]

theorem lesson_of_mumbles (source : String) (mumbles : Mumbles statement remarks) :
    lesson statement source remarks = .error .wrongType := by
  obtain ⟨isOpen, message, last, other⟩ := mumbles
  rw [lesson_of_complaint isOpen last]
  cases message
  case str text => exact absurd rfl (other text)
  all_goals rfl

/-- Without a complaint, or for a statement that is not open, the program is wrong otherwise. -/
theorem lesson_without (none : Open statement → ∀ message, ¬LastComplaint remarks message) :
    lesson statement source remarks = .ok .wrong := by
  unfold lesson
  split
  · rfl
  · rename_i complaint found
    have closed : (statement.yieldsNothing || statement.inferred) = true := by
      by_contra isOpen
      rw [Bool.not_eq_true, ← open_iff] at isOpen
      exact none isOpen complaint.message (lastComplaint_iff.mpr ⟨complaint, found, rfl⟩)
    rw [if_pos closed]

/-- **A refused program teaches, baffles, mumbles, or is wrong in another way.** -/
theorem lesson_sorted (statement : Statement) (source : String) (remarks : List Diagnostic) :
    (∃ type, Teaches statement source remarks type) ∨ Baffles statement remarks ∨
      Mumbles statement remarks ∨ lesson statement source remarks = .ok .wrong := by
  by_cases complains : Open statement ∧ ∃ message, LastComplaint remarks message
  · obtain ⟨isOpen, message, last⟩ := complains
    by_cases isText : ∃ text, message = .str text
    · obtain ⟨text, rfl⟩ := isText
      obtain ⟨type, spoken⟩ | silent := says_or_silent text.toList
      · exact .inl ⟨_, .said isOpen last spoken (declaredChars_eq_iff.mp rfl)⟩
      by_cases counts : Counts text
      · cases found : lookUp? statement.text source with
        | some values => exact .inl ⟨values, .counted isOpen last silent counts found⟩
        | none =>
          refine .inr (.inr (.inr ?_))
          rw [lesson_of_complaint isOpen last, lessonOf_silent silent,
            if_pos (counts_iff.mpr counts), found]
      · exact .inr (.inl ⟨isOpen, text, last, silent, counts⟩)
    · exact .inr (.inr (.inl ⟨isOpen, message, last, fun text same => isText ⟨text, same⟩⟩))
  · refine .inr (.inr (.inr (lesson_without fun isOpen message last => ?_)))
    exact complains ⟨isOpen, message, last⟩

/-- **A type is learnt exactly where one is taught.** -/
theorem lesson_type_iff {type : String} :
    lesson statement source remarks = .ok (.type type) ↔
      Teaches statement source remarks type := by
  constructor
  · intro learnt
    obtain ⟨type', teaches⟩ | baffles | mumbles | wrong := lesson_sorted statement source remarks
    · have learnt' := lesson_of_teaches teaches
      rw [learnt] at learnt'
      cases learnt'
      exact teaches
    · obtain ⟨message, unclear⟩ := lesson_of_baffles source baffles
      cases learnt.symm.trans unclear
    · cases learnt.symm.trans (lesson_of_mumbles source mumbles)
    · cases learnt.symm.trans wrong
  · exact lesson_of_teaches

end SolidityRepl.Desk
