import SolidityRepl.Proofs.Fragment.Assignment
import SolidityRepl.Proofs.Session
import SolidityRepl.Proofs.Text.Word

/-!
# Keywords and longer names

A fragment is placed by the keyword that it begins with. White space or a bracket ends most of these
keywords, so that a longer name is none of them. Two others are told by their letters alone, and the
words of control flow end where no letter or digit follows, which a dollar sign is not.
-/

namespace SolidityRepl

namespace Fragment

open Text

variable {cs name rest : List Char}

/-! ## Keywords and what follows them -/

theorem startsWith_iff {start : String} : startsWith start cs = true ↔ start.toList <+: cs :=
  List.isPrefixOf_iff_prefix

theorem after?_eq_some {start : String} : after? start cs = some rest ↔ cs = start.toList ++ rest :=
  List.isPrefixOf?_eq_some_iff_append_eq.trans eq_comm

/-- What keywords are separated by from what follows them. -/
def isSeparator (c : Char) : Bool := isBlank c || c == '('

/-- The first words of fragments that are no part of the entry function. -/
def placingKeywords : List String :=
  memberKeywords ++
    ["pragma", "import", "contract", "interface", "struct", "library", "abstract", "enum"]

/-- The fragment begins with one of the words that place it, and a separator behind the word. -/
def Separated (cs : List Char) : Prop :=
  ∃ k ∈ placingKeywords, ∃ c rest, cs = k.toList ++ c :: rest ∧ isSeparator c = true

theorem isMember_iff :
    isMember cs = true ↔
      ∃ k ∈ memberKeywords, ∃ c rest, cs = k.toList ++ c :: rest ∧ isSeparator c = true := by
  rw [isMember, List.any_eq_true]
  refine exists_congr fun k => and_congr_right fun _ => ?_
  constructor
  · intro separated
    split at separated
    · rename_i c rest found
      exact ⟨c, rest, after?_eq_some.mp found, separated⟩
    · cases separated
  · rintro ⟨c, rest, begins, separated⟩
    rw [after?_eq_some.mpr begins]
    exact separated

/-- A start that is a keyword and a space. -/
theorem separated_of_startsWith {start k : String} (mem : k ∈ placingKeywords)
    (spaced : k.toList ++ [' '] <+: start.toList) (begins : startsWith start cs = true) :
    Separated cs := by
  obtain ⟨rest, rfl⟩ := spaced.trans (startsWith_iff.mp begins)
  exact ⟨k, mem, ' ', rest, by simp, rfl⟩

/-- **Every rule but the last asks for a keyword with a separator behind it.** -/
theorem separated_of_first (placed : Rule.first cs ≠ .body) : Separated cs := by
  have takes := Rule.takes_first cs
  cases rule : Rule.first cs with
  | member =>
    rw [rule] at takes
    obtain ⟨k, mem, c, rest, begins, separated⟩ := isMember_iff.mp takes
    exact ⟨k, List.mem_append_left _ mem, c, rest, begins, separated⟩
  | versionPragma =>
    rw [rule] at takes
    exact separated_of_startsWith (k := "pragma") (by decide) (by decide) takes
  | directive =>
    rw [rule] at takes
    obtain begins | begins := Bool.or_eq_true_iff.mp takes
    · exact separated_of_startsWith (k := "pragma") (by decide) (by decide) begins
    · exact separated_of_startsWith (k := "import") (by decide) (by decide) begins
  | definition =>
    rw [rule] at takes
    obtain ⟨start, mem, begins⟩ := List.any_eq_true.mp takes
    have spaced : ∀ start ∈ definitionStarts, ∃ k ∈ placingKeywords,
        k.toList ++ [' '] <+: start.toList := by
      decide
    obtain ⟨k, known, spaced⟩ := spaced start mem
    exact separated_of_startsWith known spaced begins
  | body => exact absurd rule placed

theorem isControl_iff :
    isControl cs = true ↔ ∃ k ∈ controlKeywords, ∃ rest, cs = k.toList ++ rest ∧
      ∀ c ∈ rest.head?, isWord c = false := by
  rw [isControl, List.any_eq_true]
  refine exists_congr fun k => and_congr_right fun _ => ?_
  constructor
  · intro ends
    split at ends
    · rename_i c rest found
      refine ⟨c :: rest, after?_eq_some.mp found, ?_⟩
      simpa using ends
    · rename_i found
      exact ⟨[], after?_eq_some.mp found, by simp⟩
    · cases ends
  · rintro ⟨rest, begins, ends⟩
    rw [after?_eq_some.mpr begins]
    cases rest with
    | nil => rfl
    | cons c rest => simpa using ends

/-- Without an equals sign and without quotes nothing is assigned. -/
theorem hasAssignment_signless (plain : ∀ c ∈ cs, isQuote c = false) (signless : '=' ∉ cs) :
    hasAssignment cs = false := by
  have kept : maskLiterals cs = cs := by
    have whole := maskLiterals_append plain []
    rwa [maskLiterals_nil, List.append_nil] at whole
  rw [← Bool.not_eq_true, hasAssignment, kept, assignsFrom_iff]
  rintro ⟨front, after, rfl, -⟩
  exact signless (by simp)

/-! ## Names -/

/-- Letters and digits of any script, `_` and `$`. A name proper does not begin with a digit, which
makes no difference to where it is placed. -/
structure IsName (name : List Char) : Prop where
  ne_nil : name ≠ []
  named : ∀ c ∈ name, isNameChar c = true

instance (name : List Char) : Decidable (IsName name) :=
  decidable_of_iff (name ≠ [] ∧ name.all isNameChar = true)
    ⟨fun both => ⟨both.1, List.all_eq_true.mp both.2⟩,
      fun isName => ⟨isName.ne_nil, List.all_eq_true.mpr isName.named⟩⟩

def bareKeywords : List String := ["assembly", "revert"]

/-- The names that are statements without a value. -/
def silentKeywords : List String := bareKeywords ++ controlKeywords

/-- A longer name that is taken for a keyword at its beginning: for one that is told by its letters
alone, or for a word of control flow, with a dollar sign behind it. -/
def Mistaken (name : List Char) : Prop :=
  (∃ k ∈ bareKeywords, k.toList <+: name ∧ k.toList ≠ name) ∨
    ∃ k ∈ controlKeywords, k.toList ++ ['$'] <+: name

/-- What a name with its semicolon consists of. -/
theorem IsName.mem_ended (isName : IsName name) {c : Char} (mem : c ∈ name ++ [';']) :
    isNameChar c = true ∨ c = ';' := by
  obtain within | last := List.mem_append.mp mem
  · exact .inl (isName.named c within)
  · exact .inr (List.mem_singleton.mp last)

/-- A text that ends in a character of names gets a semicolon. -/
theorem terminate_named (last : ∀ c ∈ cs.getLast?, isNameChar c = true) :
    terminate cs = cs ++ [';'] := by
  have other {c : Char} (ends : isNameChar c = false) : endsIn c cs = false := by
    simp only [endsIn, beq_eq_false_iff_ne]
    intro same
    have named := last c same
    rw [ends] at named
    cases named
  have semicolon : endsIn ';' cs = false := other (by decide)
  have brace : endsIn '\x7d' cs = false := other (by decide)
  simp [terminate, semicolon, brace]

theorem isBlank_of_isNameChar {c : Char} (named : isNameChar c = true) : isBlank c = false := by
  by_contra blank
  rw [Bool.not_eq_false] at blank
  rw [isNameChar_of_isBlank blank] at named
  cases named

/-- A text between two characters of names has no white space around it. -/
theorem trim_named (first : ∀ c ∈ cs.head?, isNameChar c = true)
    (last : ∀ c ∈ cs.getLast?, isNameChar c = true) : Trim cs :=
  ⟨fun c same => isBlank_of_isNameChar (first c same),
    fun c same => isBlank_of_isNameChar (last c same)⟩

theorem IsName.first_named (isName : IsName name) : ∀ c ∈ name.head?, isNameChar c = true :=
  fun c same => isName.named c (List.mem_of_head? same)

theorem IsName.last_named (isName : IsName name) : ∀ c ∈ name.getLast?, isNameChar c = true :=
  fun c same => isName.named c (List.mem_of_getLast? same)

/-- A name has no separator. -/
theorem IsName.first (isName : IsName name) : Rule.first name = .body := by
  by_contra placed
  obtain ⟨k, -, c, rest, rfl, separates⟩ := separated_of_first placed
  have ends : isNameChar c = false := by
    obtain blank | rfl : isBlank c = true ∨ c = '(' := by simpa [isSeparator] using separates
    · exact isNameChar_of_isBlank blank
    · decide
  have named : isNameChar c = true := isName.named c (by simp)
  rw [ends] at named
  cases named

/-- A keyword begins a name with its semicolon just if it begins the name. -/
theorem prefix_ended_iff {word : List Char} (open' : ';' ∉ word) :
    word <+: name ++ [';'] ↔ word <+: name := by
  constructor
  · intro begins
    obtain whole | begins := List.prefix_concat_iff.mp begins
    · exact absurd (by simp [whole]) open'
    · exact begins
  · intro begins
    exact begins.trans (List.prefix_append _ _)

/-- A text with a character that no name has begins no name. -/
theorem IsName.startsWith_eq_false (isName : IsName name) {start : String} {c : Char}
    (mem : c ∈ start.toList) (foreign : isNameChar c = false) (other : c ≠ ';') :
    startsWith start (name ++ [';']) = false := by
  rw [← Bool.not_eq_true, startsWith_iff]
  intro begins
  obtain named | rfl := isName.mem_ended (begins.subset mem)
  · rw [foreign] at named
    cases named
  · exact other rfl

theorem IsName.silentStarts_iff (isName : IsName name) :
    silentStarts.any (startsWith · (name ++ [';'])) = true ↔
      ∃ k ∈ bareKeywords, k.toList <+: name := by
  have delete : startsWith "delete " (name ++ [';']) = false :=
    isName.startsWith_eq_false (c := ' ') (by decide) (by decide) (by decide)
  have unchecked : startsWith "unchecked " (name ++ [';']) = false :=
    isName.startsWith_eq_false (c := ' ') (by decide) (by decide) (by decide)
  have brace : startsWith "\x7b" (name ++ [';']) = false :=
    isName.startsWith_eq_false (c := '\x7b') (by decide) (by decide) (by decide)
  have bare (k : String) (mem : k ∈ bareKeywords) :
      startsWith k (name ++ [';']) = true ↔ k.toList <+: name := by
    have open' : ∀ k ∈ bareKeywords, ';' ∉ k.toList := by decide
    rw [startsWith_iff, prefix_ended_iff (open' k mem)]
  simp only [silentStarts, List.any_cons, List.any_nil, delete, unchecked, brace, Bool.false_or,
    Bool.or_false, Bool.or_eq_true, bareKeywords, List.mem_cons, List.not_mem_nil, or_false,
    exists_eq_or_imp, exists_eq_left]
  rw [bare "assembly" (by decide), bare "revert" (by decide)]

/-- A word of control flow ends where a name ends, or in front of a dollar sign. -/
theorem IsName.isControl_iff (isName : IsName name) :
    isControl (name ++ [';']) = true ↔
      ∃ k ∈ controlKeywords, k.toList = name ∨ k.toList ++ ['$'] <+: name := by
  rw [Fragment.isControl_iff]
  refine exists_congr fun k => and_congr_right fun mem => ?_
  have open' : ∀ k ∈ controlKeywords, ';' ∉ k.toList := by decide
  constructor
  · rintro ⟨rest, whole, ends⟩
    obtain same | longer := List.prefix_concat_iff.mp ⟨rest, whole.symm⟩
    · exact absurd (by simp [same]) (open' k mem)
    · obtain ⟨more, rfl⟩ := longer
      cases more with
      | nil => exact .inl (by simp)
      | cons c more =>
        -- the only character of names that ends a word
        obtain rfl : rest = c :: more ++ [';'] := by simpa using whole.symm
        have named : isNameChar c = true := isName.named c (by simp)
        have dollar : c = '$' := by simpa [isNameChar, ends c rfl] using named
        exact .inr ⟨more, by simp [dollar]⟩
  · rintro (rfl | ⟨more, rfl⟩)
    · refine ⟨[';'], rfl, ?_⟩
      rintro c ⟨⟩
      decide
    · refine ⟨'$' :: more ++ [';'], by simp, ?_⟩
      rintro c ⟨⟩
      decide

theorem IsName.not_declaration (isName : IsName name) :
    looksLikeDeclaration (name ++ [';']) = false := by
  obtain ⟨c, more, rfl⟩ := List.exists_cons_of_ne_nil isName.ne_nil
  have typed : isTypedName (c :: more ++ [';']) = false := by
    rw [isTypedName, List.cons_append, pathRest?]
    by_cases starts : isNameStart c = true
    · have path : ∀ d ∈ more, (isNameChar d || d == '.') = true := by
        intro d mem
        rw [isName.named d (List.mem_cons_of_mem _ mem), Bool.true_or]
      rw [if_pos starts, List.dropWhile_append_of_pos path]
      decide
    · rw [if_neg starts]
  rw [looksLikeDeclaration, typed, Bool.and_false]

/-- **A name is a statement without a value if it is one of the keywords, or mistaken for one.** -/
theorem IsName.yieldsNothing_iff (isName : IsName name) :
    yieldsNothing (name ++ [';']) = true ↔
      (∃ k ∈ silentKeywords, k.toList = name) ∨ Mistaken name := by
  have some : (name ++ [';'] == [';']) = false := by simpa using isName.ne_nil
  have assigns : hasAssignment (name ++ [';']) = false := by
    apply hasAssignment_signless
    · intro c mem
      obtain named | rfl := isName.mem_ended mem
      · by_contra quote
        rw [Bool.not_eq_false] at quote
        obtain rfl | rfl : c = '"' ∨ c = '\'' := by simpa [isQuote] using quote
        · exact absurd named (by decide)
        · exact absurd named (by decide)
      · decide
    · intro mem
      obtain named | same := isName.mem_ended mem
      · exact absurd named (by decide)
      · exact absurd same (by decide)
  have brace : endsIn '\x7d' (name ++ [';']) = false := by simp [endsIn]
  simp only [yieldsNothing, some, assigns, brace, isName.not_declaration, Bool.false_or,
    Bool.or_false, Bool.or_eq_true, isName.silentStarts_iff, isName.isControl_iff, silentKeywords,
    List.mem_append, Mistaken]
  constructor
  · rintro (⟨k, mem, begins⟩ | ⟨k, mem, same | dollar⟩)
    · by_cases same : k.toList = name
      · exact .inl ⟨k, .inl mem, same⟩
      · exact .inr (.inl ⟨k, mem, begins, same⟩)
    · exact .inl ⟨k, .inr mem, same⟩
    · exact .inr (.inr ⟨k, mem, dollar⟩)
  · rintro (⟨k, mem | mem, rfl⟩ | ⟨k, mem, begins, -⟩ | ⟨k, mem, dollar⟩)
    · exact .inl ⟨k, mem, List.prefix_rfl⟩
    · exact .inr ⟨k, mem, .inl rfl⟩
    · exact .inl ⟨k, mem, begins⟩
    · exact .inr ⟨k, mem, .inr dollar⟩

end Fragment

namespace Statement

open Fragment

/-- A text that no other rule takes goes into the entry function. -/
theorem ofText_of_body {cs : List Char} (some : cs ≠ []) (trim : Text.Trim cs)
    (first : Rule.first cs = .body) : ofText (String.ofList cs) none = byRule .body cs := by
  have content : content (String.ofList cs) = cs := by
    rw [content_of_trim, String.toList_ofList]
    · rwa [String.toList_ofList]
    · rwa [String.toList_ofList]
  rw [ofText, content, first]

theorem byRule_body_yieldsNothing (cs : List Char) :
    (byRule .body cs).yieldsNothing = Fragment.yieldsNothing (terminate cs) := by
  have own : Rule.finish .body cs = terminate cs := rfl
  simp only [Statement.yieldsNothing, byRule, own]
  cases Fragment.yieldsNothing (terminate cs) <;> rfl

/-- A value has the placeholder type, and its text is what is returned. -/
theorem byRule_body_value {cs : List Char} (value : (byRule .body cs).yieldsNothing = false) :
    (byRule .body cs).returned = (byRule .body cs).text ∧
      (byRule .body cs).returnType = placeholder := by
  have type : (byRule .body cs).type = some placeholder := by
    obtain ⟨type, given⟩ := Option.isSome_iff_exists.mp (Option.isNone_eq_false_iff.mp value)
    obtain ⟨-, -, rfl⟩ := byRule_type_eq_some.mp given
    exact given
  rw [returned, returnType, value, type]
  exact ⟨rfl, rfl⟩

/-- **A name is an expression of the entry function**, whatever keyword it begins with, unless it is
itself a keyword of statements, or is mistaken for one. -/
theorem ofText_name {name : String} (isName : IsName name.toList) :
    let statement := ofText name none
    statement.scope = .main ∧ statement.text = name ++ ";" ∧
      (statement.yieldsNothing = true ↔ name ∈ silentKeywords ∨ Mistaken name.toList) ∧
      (statement.yieldsNothing = false → statement.returned = name ++ ";" ∧
        statement.returnType = placeholder) := by
  have placed : ofText name none = byRule .body name.toList := by
    have body := ofText_of_body isName.ne_nil
      (trim_named isName.first_named isName.last_named) isName.first
    rwa [String.ofList_toList] at body
  have ended : terminate name.toList = name.toList ++ [';'] :=
    terminate_named isName.last_named
  have text : (byRule .body name.toList).text = name ++ ";" := by
    rw [← String.toList_inj, byRule_text, String.toList_append]
    exact ended
  have listed : (∃ k ∈ silentKeywords, k.toList = name.toList) ↔ name ∈ silentKeywords := by
    simp [String.toList_inj]
  rw [placed]
  refine ⟨rfl, text, ?_, ?_⟩
  · rw [byRule_body_yieldsNothing, ended, isName.yieldsNothing_iff, listed]
  · intro value
    rw [(byRule_body_value value).1, text]
    exact ⟨rfl, (byRule_body_value value).2⟩

/-- A name that begins with a keyword of the contract. -/
theorem ofText_name_functional :
    IsName "functional".toList ∧ (ofText "functional" none).scope = .main ∧
      (ofText "functional" none).returned = "functional;" := by
  have isName : IsName "functional".toList := by decide
  obtain ⟨scope, -, silent, value⟩ := ofText_name isName
  refine ⟨isName, scope, (value ?_).1⟩
  rw [← Bool.not_eq_true, silent]
  simp [Mistaken, silentKeywords, bareKeywords, controlKeywords]

/-- Names that begin with a keyword of statements, and have no value for that reason. -/
theorem ofText_name_reverted :
    (IsName "reverted".toList ∧ "reverted" ∉ silentKeywords ∧
        (ofText "reverted" none).returned = ";") ∧
      (IsName "assemblyLine".toList ∧ "assemblyLine" ∉ silentKeywords ∧
        (ofText "assemblyLine" none).returned = ";") ∧
      IsName "if$x".toList ∧ "if$x" ∉ silentKeywords ∧ (ofText "if$x" none).returned = ";" := by
  decide +kernel

end Statement

end SolidityRepl
