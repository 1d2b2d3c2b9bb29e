import SolidityRepl.Proofs.Fragment.Declaration
import SolidityRepl.Proofs.Text.Search
import SolidityRepl.ReturnType

/-!
# What a called function is declared to return

* `Calls`: the first name in a text that is followed by an opening bracket;
* `Opens`: where a function of a name is declared, up to the opening bracket of its parameters;
* `Promises`: the first returns clause among the attributes of a function;
* `lookUp?_promised`: what is found for the call in a text is the clause of the first function of
  that name, and nothing is found if there is no such function.
-/

namespace SolidityRepl.ReturnType

open Text Fragment

/-! ## Called names -/

/-- A name with an opening bracket behind it, after white space or at once. What is before the name
is `front`. -/
def Call (text front name : List Char) : Prop :=
  IsIdentifier name ∧ ∃ gap rest, Blank gap ∧ text = front ++ (name ++ (gap ++ '(' :: rest))

def Calls (text name : List Char) : Prop :=
  ∃ front, Call text front name ∧
    ∀ front' name', Call text front' name' → front.length ≤ front'.length

/-- What is called at one place of a text. -/
def callAt? (rest : List Char) : Option (List Char) := do
  let (name, rest) ← name? rest
  if (stripStart rest).head? == some '(' then some name else none

variable {text name source : List Char}

/-- What white space is followed by, once it is taken away. -/
theorem exists_stripStart (cs : List Char) : ∃ gap, Blank gap ∧ cs = gap ++ stripStart cs := by
  refine ⟨cs.takeWhile isBlank, ?_, List.takeWhile_append_dropWhile.symm⟩
  intro c among
  exact List.mem_takeWhile_imp among

/-- An opening bracket is found behind white space. -/
theorem stripStart_bracket_iff {cs rest : List Char} :
    stripStart cs = '(' :: rest ↔ ∃ gap, Blank gap ∧ cs = gap ++ '(' :: rest := by
  constructor
  · intro opens
    obtain ⟨gap, blank, cut⟩ := exists_stripStart cs
    exact ⟨gap, blank, by rw [← opens, ← cut]⟩
  · rintro ⟨gap, blank, rfl⟩
    rw [stripStart_append blank]
    apply stripStart_shown
    intro c first
    cases first
    decide

/-- Neither white space nor a bracket is part of a name. -/
theorem ends_bracket {gap : List Char} (blank : Blank gap) (rest : List Char) :
    ∀ c ∈ (gap ++ '(' :: rest).head?, isNameChar c = false := by
  intro c first
  cases gap with
  | nil =>
    cases first
    decide
  | cons d gap =>
    cases first
    exact isNameChar_of_isBlank (blank c List.mem_cons_self)

/-- A name that is read is an identifier in front of the rest. -/
theorem name?_eq_some {cs rest : List Char} (read : name? cs = some (name, rest)) :
    IsIdentifier name ∧ cs = name ++ rest := by
  cases cs with
  | nil => cases read
  | cons c cs =>
    simp only [name?, Option.ite_none_right_eq_some, Option.some.injEq, Prod.mk.injEq] at read
    obtain ⟨starts, rfl, rfl⟩ := read
    refine ⟨⟨by simpa using starts, ?_⟩, ?_⟩
    · intro d among
      rcases List.mem_cons.mp among with rfl | among
      · exact isNameChar_of_isNameStart starts
      · exact List.mem_takeWhile_imp among
    · rw [List.cons_append, List.takeWhile_append_dropWhile]

theorem calledName?_eq (text : List Char) :
    calledName? text = firstMatch (fun _ rest => callAt? rest) none text := rfl

theorem callAt?_eq_some_iff : callAt? text = some name ↔ Call text [] name := by
  simp only [callAt?, Option.bind_eq_bind, Option.bind_eq_some_iff, Call, List.nil_append,
    beq_iff_eq, Option.ite_none_right_eq_some, Option.some.injEq, List.head?_eq_some_iff,
    stripStart_bracket_iff]
  constructor
  · rintro ⟨⟨word, _⟩, read, ⟨rest, gap, blank, rfl⟩, rfl⟩
    obtain ⟨isIdentifier, cut⟩ := name?_eq_some read
    exact ⟨isIdentifier, gap, rest, blank, cut⟩
  · rintro ⟨isIdentifier, gap, rest, blank, rfl⟩
    exact ⟨_, isIdentifier.name? (ends_bracket blank rest), ⟨rest, gap, blank, rfl⟩, rfl⟩

theorem call_append_iff {front rest : List Char} :
    Call (front ++ rest) front name ↔ Call rest [] name := by
  simp only [Call, List.append_cancel_left_eq, List.nil_append]

theorem Call.cut {front : List Char} (call : Call text front name) :
    ∃ rest, text = front ++ rest ∧ Call rest [] name := by
  obtain ⟨isIdentifier, gap, rest, blank, rfl⟩ := call
  exact ⟨_, rfl, isIdentifier, gap, rest, blank, rfl⟩

/-- **The name that is found in a text is the first one that is called.** -/
theorem calledName?_eq_some_iff : calledName? text = some name ↔ Calls text name := by
  rw [calledName?_eq, firstMatch_eq_some_iff]
  constructor
  · rintro ⟨front, rest, rfl, read, first⟩
    refine ⟨front, call_append_iff.mpr (callAt?_eq_some_iff.mp read), ?_⟩
    intro front' name' call
    obtain ⟨rest', cut, there⟩ := call.cut
    by_contra short
    have silent := first front' rest' cut (Nat.lt_of_not_le short)
    rw [callAt?_eq_some_iff.mpr there] at silent
    cases silent
  · rintro ⟨front, call, first⟩
    obtain ⟨rest, rfl, here⟩ := call.cut
    refine ⟨front, rest, rfl, callAt?_eq_some_iff.mpr here, ?_⟩
    intro front' rest' cut short
    cases read : callAt? rest' with
    | none => rfl
    | some name' =>
      have there : Call rest' [] name' := callAt?_eq_some_iff.mp read
      have later := first front' name' (cut ▸ call_append_iff.mpr there)
      omega

/-! ## Declared functions -/

/-- A function of a name is declared after `front`, and `rest` stands behind the opening bracket of
its parameters. The word for a function may end a longer word. -/
def Opens (source name front rest : List Char) : Prop :=
  ∃ gap gap', IsGap gap ∧ Blank gap' ∧
    source = front ++ ("function".toList ++ (gap ++ (name ++ (gap' ++ '(' :: rest))))

/-- What stands behind the opening bracket of the function that is declared at one place. -/
def opensAt? (name rest : List Char) : Option (List Char) := do
  let rest ← "function".toList.isPrefixOf? rest
  let rest ← blankRest? rest
  let rest ← name.isPrefixOf? rest
  match stripStart rest with
  | '(' :: rest => some rest
  | _ => none

/-- What stands behind the parameters of a function, up to its body or to a semicolon. -/
def middleOf? (rest : List Char) : Option (List Char) :=
  (splitAtFirst? ')' rest).map fun (_, rest) => rest.takeWhile fun c => c != '\x7b' && c != ';'

theorem attributes?_eq (cs : List Char) : attributes? cs =
    (match stripStart cs with
      | '(' :: rest => some rest
      | _ => none).bind middleOf? := by
  unfold attributes?
  cases stripStart cs with
  | nil => rfl
  | cons c rest =>
    by_cases opens : c = '('
    · subst opens
      rfl
    · simp [opens]

theorem declaration?_eq (name source : List Char) : declaration? name source =
    firstMatch (fun _ rest => (opensAt? name rest).bind middleOf?) none source := by
  simp only [declaration?, opensAt?, attributes?_eq, Option.bind_eq_bind, Option.bind_assoc]

theorem blankRest?_eq_some {cs rest : List Char} (read : blankRest? cs = some rest) :
    ∃ gap, IsGap gap ∧ cs = gap ++ rest := by
  cases cs with
  | nil => cases read
  | cons c cs =>
    simp only [blankRest?, Option.ite_none_right_eq_some, Option.some.injEq] at read
    obtain ⟨blank, rfl⟩ := read
    obtain ⟨gap, more, cut⟩ := exists_stripStart cs
    refine ⟨c :: gap, ⟨List.cons_ne_nil c gap, ?_⟩, by rw [List.cons_append, ← cut]⟩
    intro d among
    rcases List.mem_cons.mp among with rfl | among
    · exact blank
    · exact more d among

/-- **A function is read where it is declared**, and nowhere else. -/
theorem opensAt?_eq_some_iff {cs rest : List Char} (isIdentifier : IsIdentifier name) :
    opensAt? name cs = some rest ↔ Opens cs name [] rest := by
  simp only [opensAt?, Option.bind_eq_bind, Option.bind_eq_some_iff, Opens, List.nil_append]
  constructor
  · rintro ⟨afterWord, word, afterGap, apart, afterName, named, read⟩
    split at read
    · rename_i opens
      cases read
      obtain ⟨gap, isGap, rfl⟩ := blankRest?_eq_some apart
      obtain ⟨gap', blank, rfl⟩ := stripStart_bracket_iff.mp opens
      refine ⟨gap, gap', isGap, blank, ?_⟩
      rw [append_of_isPrefixOf? named, append_of_isPrefixOf? word]
    · cases read
  · rintro ⟨gap, gap', isGap, blank, rfl⟩
    refine ⟨_, isPrefixOf?_append _ _, _, isGap.blankRest? (isIdentifier.shown _), _,
      isPrefixOf?_append _ _, ?_⟩
    simp only [stripStart_bracket_iff.mpr ⟨gap', blank, rfl⟩]

theorem opens_append_iff {front rest more : List Char} :
    Opens (front ++ rest) name front more ↔ Opens rest name [] more := by
  simp only [Opens, List.append_cancel_left_eq, List.nil_append]

theorem Opens.cut {front more : List Char} (opens : Opens source name front more) :
    ∃ rest, source = front ++ rest ∧ Opens rest name [] more := by
  obtain ⟨gap, gap', isGap, blank, rfl⟩ := opens
  exact ⟨_, rfl, gap, gap', isGap, blank, rfl⟩

/-- What stands behind the parameters ends in front of a body, or of a semicolon. -/
theorem middleOf?_append {params middle back : List Char} {stop : Char} (closed : ')' ∉ params)
    (plain : '\x7b' ∉ middle ∧ ';' ∉ middle) (ends : stop = '\x7b' ∨ stop = ';') :
    middleOf? (params ++ ')' :: (middle ++ stop :: back)) = some middle := by
  have cut : splitAtFirst? ')' (params ++ ')' :: (middle ++ stop :: back)) =
      some (params, middle ++ stop :: back) := by
    apply splitAtFirst?_append
    rintro c among rfl
    exact closed among
  have most : (middle ++ stop :: back).takeWhile (fun c => c != '\x7b' && c != ';') = middle := by
    apply takeWhile_until
    · intro c among
      have open' : c ≠ '\x7b' := fun same => plain.1 (same ▸ among)
      have other : c ≠ ';' := fun same => plain.2 (same ▸ among)
      simp [open', other]
    · rintro c ⟨⟩
      rcases ends with rfl | rfl <;> decide
  simp only [middleOf?, cut, Option.map_some, most]

/-- **The attributes of the first function of a name are found**, whatever stands around it. -/
theorem declaration?_of_opens {front params middle back : List Char} {stop : Char}
    (isIdentifier : IsIdentifier name)
    (opens : Opens source name front (params ++ ')' :: (middle ++ stop :: back)))
    (first : ∀ front' rest, Opens source name front' rest → front.length ≤ front'.length)
    (closed : ')' ∉ params) (plain : '\x7b' ∉ middle ∧ ';' ∉ middle)
    (ends : stop = '\x7b' ∨ stop = ';') : declaration? name source = some middle := by
  obtain ⟨rest, rfl, here⟩ := opens.cut
  rw [declaration?_eq, firstMatch_eq_some_iff]
  refine ⟨front, rest, rfl, ?_, ?_⟩
  · rw [(opensAt?_eq_some_iff isIdentifier).mpr here, Option.bind_some]
    exact middleOf?_append closed plain ends
  · intro front' rest' cut short
    cases read : opensAt? name rest' with
    | none => rfl
    | some more =>
      have there := (opensAt?_eq_some_iff isIdentifier).mp read
      have later := first front' more (cut ▸ opens_append_iff.mpr there)
      omega

/-- Without a function of a name there are no attributes of it. -/
theorem declaration?_of_absent (isIdentifier : IsIdentifier name)
    (absent : ∀ front rest, ¬Opens source name front rest) : declaration? name source = none := by
  rw [declaration?_eq, firstMatch_eq_none_iff]
  rintro front rest rfl
  cases read : opensAt? name rest with
  | none => rfl
  | some more =>
    have there := (opensAt?_eq_some_iff isIdentifier).mp read
    exact absurd (opens_append_iff.mpr there) (absent front more)

/-! ## Returns clauses -/

/-- Attributes with a returns clause after `front`, and `values` between its brackets. The word for
it is not the end of a longer one. -/
def Clause (attributes front values : List Char) : Prop :=
  startsWord front.getLast? = true ∧ ')' ∉ values ∧ ∃ gap rest, Blank gap ∧
    attributes = front ++ ("returns".toList ++ (gap ++ '(' :: (values ++ ')' :: rest)))

/-- The values of the first returns clause, if there is any clause. -/
def Promises (attributes : List Char) : Option (List Char) → Prop
  | some values => ∃ front, Clause attributes front values ∧
      ∀ front' values', Clause attributes front' values' → front.length ≤ front'.length
  | none => ∀ front values, ¬Clause attributes front values

def clauseAt? (before : Option Char) (rest : List Char) : Option (List Char) :=
  if startsWord before then do
    let rest ← "returns".toList.isPrefixOf? rest
    match stripStart rest with
    | '(' :: rest => (splitAtFirst? ')' rest).map (·.1)
    | _ => none
  else none

theorem returnsClause?_eq (attributes : List Char) :
    returnsClause? attributes = firstMatch clauseAt? none attributes := rfl

theorem absent_of_splitAtFirst? {stop : Char} {cs front after : List Char}
    (cut : splitAtFirst? stop cs = some (front, after)) : stop ∉ front := by
  induction cs generalizing front with
  | nil => cases cut
  | cons c cs ih =>
    simp only [splitAtFirst?] at cut
    split at cut
    · cases cut
      exact List.not_mem_nil
    · rename_i other
      obtain ⟨⟨front', after'⟩, later, same⟩ := Option.map_eq_some_iff.mp cut
      cases same
      intro among
      rcases List.mem_cons.mp among with rfl | among
      · exact other (beq_self_eq_true stop)
      · exact ih later among

theorem clauseAt?_eq_some_iff {front rest values : List Char} :
    clauseAt? (front.getLast?.or none) rest = some values ↔
      Clause (front ++ rest) front values := by
  rw [Option.or_none, Clause]
  by_cases starts : startsWord front.getLast? = true
  · simp only [clauseAt?, starts, if_true, true_and, List.append_cancel_left_eq,
      Option.bind_eq_bind, Option.bind_eq_some_iff]
    constructor
    · rintro ⟨_, word, read⟩
      split at read
      · rename_i opens
        obtain ⟨⟨values', more⟩, cut, rfl⟩ := Option.map_eq_some_iff.mp read
        obtain ⟨gap, blank, rfl⟩ := stripStart_bracket_iff.mp opens
        refine ⟨absent_of_splitAtFirst? cut, gap, more, blank, ?_⟩
        rw [← append_of_splitAtFirst? cut, append_of_isPrefixOf? word]
      · cases read
    · rintro ⟨closed, gap, more, blank, rfl⟩
      have cut : splitAtFirst? ')' (values ++ ')' :: more) = some (values, more) := by
        apply splitAtFirst?_append
        rintro c among rfl
        exact closed among
      refine ⟨_, isPrefixOf?_append _ _, ?_⟩
      simp only [stripStart_bracket_iff.mpr ⟨gap, blank, rfl⟩, cut, Option.map_some]
  · simp [clauseAt?, starts]

/-- **The clause that is found is the first one, and none is found where there is none.** -/
theorem promises_returnsClause? (attributes : List Char) :
    Promises attributes (returnsClause? attributes) := by
  cases found : returnsClause? attributes with
  | none =>
    rw [returnsClause?_eq, firstMatch_eq_none_iff] at found
    intro front values clause
    obtain ⟨-, -, gap, rest, -, cut⟩ := id clause
    have read := clauseAt?_eq_some_iff.mpr (cut ▸ clause)
    rw [found front _ cut] at read
    cases read
  | some values =>
    rw [returnsClause?_eq, firstMatch_eq_some_iff] at found
    obtain ⟨front, rest, rfl, read, first⟩ := found
    refine ⟨front, clauseAt?_eq_some_iff.mp read, ?_⟩
    intro front' values' clause
    by_contra short
    obtain ⟨-, -, gap, more, -, cut⟩ := id clause
    have read' := clauseAt?_eq_some_iff.mpr (cut ▸ clause)
    rw [first front' _ cut (Nat.lt_of_not_le short)] at read'
    cases read'

/-! ## Looking up -/

/-- **The declared values of a called function are found.** Take the first name in a text that is
called. If a source declares a function of that name, and the first one has its parameters, its
attributes and then a body or a semicolon, then what is between the brackets of its first returns
clause is found, without white space around, and nothing but the empty text if there is no clause.
If it declares none, nothing is found. -/
theorem lookUp?_promised {text source : String} {name : List Char}
    (calls : Calls text.toList name) :
    (∀ front params middle back stop,
      Opens source.toList name front (params ++ ')' :: (middle ++ stop :: back)) →
      (∀ front' rest, Opens source.toList name front' rest → front.length ≤ front'.length) →
      ')' ∉ params → '\x7b' ∉ middle ∧ ';' ∉ middle → stop = '\x7b' ∨ stop = ';' →
      ∃ clause, Promises middle clause ∧
        lookUp? text source = some (String.ofList (strip (clause.getD [])))) ∧
    ((∀ front rest, ¬Opens source.toList name front rest) → lookUp? text source = none) := by
  have called := calledName?_eq_some_iff.mpr calls
  have isIdentifier : IsIdentifier name := by
    obtain ⟨front, call, -⟩ := calls
    exact call.1
  constructor
  · intro front params middle back stop opens first closed plain ends
    have declared := declaration?_of_opens isIdentifier opens first closed plain ends
    refine ⟨returnsClause? middle, promises_returnsClause? middle, ?_⟩
    simp only [lookUp?, called, declared, Option.bind_eq_bind, Option.bind_some]
    cases returnsClause? middle with
    | none => rfl
    | some values => rfl
  · intro absent
    have undeclared := declaration?_of_absent isIdentifier absent
    simp only [lookUp?, called, undeclared, Option.bind_eq_bind, Option.bind_some,
      Option.bind_none]

/-! ## A function behind one whose name is longer -/

def sum : String := "1 + f$ (g(2))"

/-- A library whose first function has a name that begins with that of the second. -/
def libraryFront : String := "library L \x7b function f$2() returns (int) \x7b \x7d "

/-- Attributes with a modifier in front of the clause. -/
def libraryMiddle : String := " external myreturns(1)\nreturns ( uint y, bool) "

def library : String :=
  libraryFront ++ "function\nf$ (uint x)" ++ libraryMiddle ++ "\x7b \x7d function g(); \x7d"

theorem opens_library : Opens library.toList "f$".toList libraryFront.toList
    ("uint x".toList ++
      ')' :: (libraryMiddle.toList ++ '\x7b' :: " \x7d function g(); \x7d".toList)) :=
  ⟨['\n'], [' '], ⟨by decide, by decide⟩, by decide, by decide +kernel⟩

/-- Before it no function of its name stands in the library. -/
theorem opens_library_first (earlier rest : List Char)
    (opens : Opens library.toList "f$".toList earlier rest) :
    libraryFront.toList.length ≤ earlier.length := by
  have silent : ∀ k < libraryFront.toList.length,
      opensAt? "f$".toList (library.toList.drop k) = none := by decide +kernel
  obtain ⟨behind, cut, here⟩ := opens.cut
  by_contra short
  have read := (opensAt?_eq_some_iff (by decide)).mpr here
  have none := silent earlier.length (Nat.lt_of_not_le short)
  rw [cut, List.drop_left, read] at none
  cases none

theorem lookUp?_promised_library : Calls sum.toList "f$".toList ∧
    ∃ clause, Promises libraryMiddle.toList clause ∧
      lookUp? sum library = some (String.ofList (strip (clause.getD []))) := by
  have calls : Calls sum.toList "f$".toList := calledName?_eq_some_iff.mp (by decide)
  refine ⟨calls, (lookUp?_promised calls).1 _ _ _ _ _ opens_library opens_library_first ?_ ?_ ?_⟩
  · decide
  · decide
  · exact .inl rfl

end SolidityRepl.ReturnType
