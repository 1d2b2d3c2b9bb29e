import SolidityRepl.Import.Directive
import SolidityRepl.Proofs.Text.Blank
import SolidityRepl.Proofs.Text.Split

/-!
# How directives are written

A directive imports a whole unit, with or without a name for it, or everything that is in a unit
under one name, or some symbols of a unit, each under its own name or another one.
-/

namespace SolidityRepl.Import

open Text

/-- A symbol of a unit, and the other name that it may get. -/
structure Symbol where
  name : List Char
  newName : Option (List Char)
  deriving DecidableEq, Repr

inductive Form where
  | unit
  | unitAs (name : List Char)
  | everythingAs (name : List Char)
  | symbols (symbols : List Symbol)
  deriving DecidableEq, Repr

/-- A directive. The quote is the one on both sides of the path. -/
structure Directive where
  form : Form
  quote : Char
  path : List Char
  deriving DecidableEq, Repr

def Symbol.text (symbol : Symbol) : List Char :=
  match symbol.newName with
  | none => symbol.name
  | some other => symbol.name ++ (" as ".toList ++ other)

namespace Form

/-- What stands between the keyword and the path. -/
def lead : Form → List Char
  | unit | unitAs _ => [' ']
  | everythingAs name => ' ' :: ("* as ".toList ++ name ++ " from ".toList)
  | symbols list =>
    ' ' :: ('{' :: ", ".toList.intercalate (list.map Symbol.text) ++ ['}'] ++ " from ".toList)

/-- What stands between the path and the semicolon. -/
def trail : Form → List Char
  | unitAs name => " as ".toList ++ name
  | _ => []

def names : Form → List (List Char)
  | unit => []
  | unitAs name | everythingAs name => [name]
  | symbols list => list.flatMap fun symbol => symbol.name :: symbol.newName.toList

end Form

def Directive.text (d : Directive) : List Char :=
  "import".toList ++ (d.form.lead ++ d.quote :: (d.path ++ d.quote :: (d.form.trail ++ [';'])))

theorem Directive.text_append (d : Directive) (rest : List Char) :
    d.text ++ rest = "import".toList ++
      (d.form.lead ++ d.quote :: (d.path ++ d.quote :: (d.form.trail ++ ';' :: rest))) := by
  show ("import".toList ++ _) ++ rest = _
  simp only [List.append_assoc, List.cons_append, List.nil_append]

/-- A directive with names of Solidity, and with a path between quotes that has none inside. -/
structure Directive.Sound (d : Directive) : Prop where
  named : ∀ name ∈ d.form.names, ∀ c ∈ name, isNameChar c = true
  quoted : isQuote d.quote = true
  quoteless : ∀ c ∈ d.path, isQuote c = false

/-! ## The characters around a path -/

/-- A character that ends neither names nor a line, and starts no comment. -/
def isTame (c : Char) : Bool := !endsNames c && c != '/' && c != '\n'

def Tame (cs : List Char) : Prop := ∀ c ∈ cs, isTame c = true

instance (cs : List Char) : Decidable (Tame cs) :=
  List.decidableBAll (fun c => isTame c = true) cs

variable {cs rest : List Char}

theorem isTame_iff {c : Char} :
    isTame c = true ↔ isQuote c = false ∧ c ≠ ';' ∧ c ≠ '/' ∧ c ≠ '\n' := by
  simp [isTame, endsNames, and_assoc]

theorem isTame_of_isNameChar {c : Char} (named : isNameChar c = true) : isTame c = true := by
  rw [isTame_iff]
  refine ⟨Bool.eq_false_iff.mpr fun quote => ?_, ?_, ?_, ?_⟩
  · obtain rfl | rfl : c = '"' ∨ c = '\'' := by simpa [isQuote] using quote
    · exact absurd named (by decide)
    · exact absurd named (by decide)
  all_goals
    rintro rfl
    exact absurd named (by decide)

theorem Tame.append {front back : List Char} (first : Tame front) (second : Tame back) :
    Tame (front ++ back) := by
  intro c among
  obtain among | among := List.mem_append.mp among
  · exact first c among
  · exact second c among

theorem Tame.intercalate {gap : List Char} {parts : List (List Char)} (between : Tame gap)
    (all : ∀ part ∈ parts, Tame part) : Tame (gap.intercalate parts) := by
  induction parts with
  | nil => exact fun _ mem => absurd mem List.not_mem_nil
  | cons part parts ih =>
    have first : Tame part := all part List.mem_cons_self
    cases parts with
    | nil => simpa [List.intercalate] using first
    | cons next more =>
      rw [List.intercalate_cons_cons]
      exact (first.append between).append (ih fun p mem => all p (List.mem_cons_of_mem _ mem))

namespace Directive

variable {d : Directive}

theorem Sound.tame_names (sound : d.Sound) : ∀ name ∈ d.form.names, Tame name :=
  fun name mem c among => isTame_of_isNameChar (sound.named name mem c among)

theorem Sound.tame_lead (sound : d.Sound) : Tame d.form.lead := by
  have named := sound.tame_names
  cases form : d.form with
  | unit | unitAs _ => exact (by decide : Tame [' '])
  | everythingAs name =>
    rw [form] at named
    have inner : Tame name := named name (List.mem_singleton.mpr rfl)
    have before : Tame (' ' :: "* as ".toList) := by decide
    have after : Tame " from ".toList := by decide
    exact (before.append inner).append after
  | symbols list =>
    rw [form] at named
    have inner : Tame (", ".toList.intercalate (list.map Symbol.text)) := by
      refine .intercalate (by decide) fun part mem => ?_
      obtain ⟨symbol, listed, rfl⟩ := List.mem_map.mp mem
      have own : Tame symbol.name :=
        named _ (List.mem_flatMap.mpr ⟨symbol, listed, List.mem_cons_self⟩)
      cases other : symbol.newName with
      | none => rwa [Symbol.text, other]
      | some name =>
        have new : Tame name :=
          named _ (List.mem_flatMap.mpr ⟨symbol, listed, by simp [other]⟩)
        have as : Tame " as ".toList := by decide
        rw [Symbol.text, other]
        exact own.append (as.append new)
    have before : Tame [' ', '{'] := by decide
    have after : Tame ('}' :: " from ".toList) := by decide
    simpa [Form.lead] using (before.append inner).append after

theorem Sound.tame_trail (sound : d.Sound) : Tame d.form.trail := by
  have named := sound.tame_names
  cases form : d.form with
  | unitAs name =>
    rw [form] at named
    have as : Tame " as ".toList := by decide
    exact as.append (named name (List.mem_singleton.mpr rfl))
  | unit | everythingAs _ | symbols _ => exact fun _ mem => absurd mem List.not_mem_nil

theorem Sound.oneLine_text (sound : d.Sound) (oneLine : '\n' ∉ d.path) : '\n' ∉ d.text := by
  have lead : '\n' ∉ d.form.lead := fun mem => (isTame_iff.mp (sound.tame_lead _ mem)).2.2.2 rfl
  have trail : '\n' ∉ d.form.trail := fun mem => (isTame_iff.mp (sound.tame_trail _ mem)).2.2.2 rfl
  have quote : '\n' ≠ d.quote := fun same => absurd sound.quoted (same ▸ by decide)
  have keyword : '\n' ∉ "import".toList := by decide
  have stop : '\n' ≠ ';' := by decide
  rw [← List.append_nil d.text, text_append]
  simp only [List.mem_append, List.mem_cons, List.not_mem_nil, or_false, not_or]
  exact ⟨keyword, lead, quote, oneLine, quote, trail, stop⟩

end Directive

/-! ## Reading a directive -/

theorem introducesPath_from (names : List Char) :
    introducesPath (' ' :: (names ++ " from ".toList)) = true := by
  have front : stripEnd (' ' :: (names ++ " from ".toList)) =
      (' ' :: (names ++ [' '])) ++ "from".toList := by
    have split : ' ' :: (names ++ " from ".toList) =
        ((' ' :: (names ++ [' '])) ++ "from".toList) ++ [' '] := by simp
    rw [split, stripEnd, List.reverse_append]
    simp [isBlank]
  have before : ((' ' :: (names ++ [' '])) ++ "from".toList).take
      (((' ' :: (names ++ [' '])) ++ "from".toList).length - 4) = ' ' :: (names ++ [' ']) := by
    rw [List.length_append]
    exact List.take_left
  have word : "from".toList.isSuffixOf ((' ' :: (names ++ [' '])) ++ "from".toList) = true :=
    List.isSuffixOf_iff_suffix.mpr (List.suffix_append _ _)
  have blanks : areNames (' ' :: (names ++ [' '])) = true := by
    have last : ((' ' :: names) ++ [' ']).getLast? = some ' ' := List.getLast?_concat
    rw [List.cons_append] at last
    simp [areNames, isBlank, last]
  simp only [introducesPath, front, before, word, blanks]
  simp

theorem Form.introducesPath_lead (form : Form) : introducesPath form.lead = true := by
  cases form with
  | unit | unitAs _ => exact (by decide : introducesPath [' '] = true)
  | everythingAs name => exact introducesPath_from _
  | symbols list => exact introducesPath_from _

namespace Directive

variable {d : Directive}

/-- What follows the names of a directive is its path, between quotes. -/
theorem Sound.fromQuote? (sound : d.Sound) (rest : List Char) :
    fromQuote? (d.text ++ rest) =
      some (d.quote :: (d.path ++ d.quote :: (d.form.trail ++ ';' :: rest))) := by
  have start (more : List Char) : stripStart ("import".toList ++ more) = "import".toList ++ more := by
    simp [stripStart, isBlank]
  have keyword (more : List Char) :
      "import".toList.isPrefixOf? ("import".toList ++ more) = some more :=
    List.isPrefixOf?_eq_some_iff_append_eq.mpr rfl
  have open' : ∀ c ∈ d.form.lead, (!endsNames c) = true := by
    intro c mem
    have tame := sound.tame_lead c mem
    simp only [isTame, Bool.and_eq_true] at tame
    exact tame.1.1
  have closed (more : List Char) : ∀ c ∈ (d.quote :: more).head?, (!endsNames c) = false := by
    simp [endsNames, sound.quoted]
  rw [text_append, Import.fromQuote?, start, keyword]
  simp only [Option.bind_eq_bind, Option.bind_some, takeWhile_until open' (closed _),
    dropWhile_until open' (closed _), d.form.introducesPath_lead, if_true]

/-- **A directive is read as its path**, unless that is empty. -/
theorem Sound.read (sound : d.Sound) (rest : List Char) :
    directive? (d.text ++ rest) = if d.path = [] then none else some (d.path, rest) := by
  have inside : ∀ c ∈ d.path, (!isQuote c) = true := fun c mem => by
    rw [sound.quoteless c mem]
    rfl
  have closed (more : List Char) : ∀ c ∈ (d.quote :: more).head?, (!isQuote c) = false := by
    simp [sound.quoted]
  have ends : splitAtFirst? ';' (d.form.trail ++ ';' :: rest) = some (d.form.trail, rest) :=
    splitAtFirst?_append fun c mem => (isTame_iff.mp (sound.tame_trail c mem)).2.1
  rw [directive?, sound.fromQuote?]
  simp only [takeWhile_until inside (closed _), dropWhile_until inside (closed _), ends,
    sound.quoted]
  cases path : d.path <;> simp

end Directive

/-! ## Finding directives -/

theorem pathsFrom_of_directive {path : List Char} (read : directive? cs = some (path, rest)) :
    pathsFrom true cs = path :: pathsFrom false rest := by
  rw [pathsFrom]
  split
  · rename_i path' rest' found
    rw [directiveAt?, if_pos rfl, read] at found
    cases found
    rfl
  · rename_i none
    rw [directiveAt?, if_pos rfl, read] at none
    cases none

theorem pathsFrom_cons {starts : Bool} {c : Char}
    (none : directiveAt? starts (c :: cs) = none) :
    pathsFrom starts (c :: cs) = pathsFrom (c == '\n') cs := by
  rw [pathsFrom]
  split
  · rename_i found
    rw [none] at found
    cases found
  · rfl

/-- In the middle of a line nothing is found. -/
theorem pathsFrom_skip {front : List Char} (oneLine : '\n' ∉ front) (rest : List Char) :
    pathsFrom false (front ++ rest) = pathsFrom false rest := by
  induction front with
  | nil => rfl
  | cons c front ih =>
    have other : (c == '\n') = false :=
      beq_false_of_ne fun same => oneLine (same ▸ List.mem_cons_self)
    rw [List.cons_append, pathsFrom_cons rfl, other,
      ih fun mem => oneLine (List.mem_cons_of_mem _ mem)]

theorem pathsFrom_nil (starts : Bool) : pathsFrom starts [] = [] := by
  cases starts with
  | false => rw [pathsFrom]; rfl
  | true => decide +kernel

/-- Where no directive starts it does not matter whether a line does. -/
theorem pathsFrom_of_none (none : directive? cs = none) (starts : Bool) :
    pathsFrom starts cs = pathsFrom false cs := by
  cases cs with
  | nil => rw [pathsFrom_nil, pathsFrom_nil]
  | cons c cs =>
    have unread : directiveAt? starts (c :: cs) = Option.none := by
      rw [directiveAt?, none, ite_self]
    rw [pathsFrom_cons unread, pathsFrom_cons rfl]

theorem directive?_blank {c : Char} (blank : isBlank c = true) (cs : List Char) :
    directive? (c :: cs) = directive? cs := by
  have strip : stripStart (c :: cs) = stripStart cs := by
    rw [stripStart, List.dropWhile_cons, if_pos blank, stripStart]
  rw [directive?, directive?, fromQuote?, fromQuote?, strip]

/-- White space at the start of a line is passed over. -/
theorem pathsFrom_blank {c : Char} (blank : isBlank c = true) (cs : List Char) :
    pathsFrom true (c :: cs) = pathsFrom true cs := by
  cases read : directive? cs with
  | some found =>
    rw [pathsFrom_of_directive read, pathsFrom_of_directive (by rw [directive?_blank blank, read])]
  | none =>
    have unread : directiveAt? true (c :: cs) = Option.none := by
      rw [directiveAt?, if_pos rfl, directive?_blank blank, read]
    rw [pathsFrom_cons unread, pathsFrom_of_none read true, pathsFrom_of_none read (c == '\n')]

/-- **Behind white space a line starts if one did before, or if there is a line feed in it.** -/
theorem pathsFrom_gap {gap : List Char} (blank : Blank gap) (starts : Bool) (cs : List Char) :
    pathsFrom starts (gap ++ cs) = pathsFrom (starts || gap.contains '\n') cs := by
  induction gap generalizing starts with
  | nil => simp
  | cons c gap ih =>
    have inner := ih fun d mem => blank d (List.mem_cons_of_mem _ mem)
    cases starts with
    | false =>
      rw [List.cons_append, pathsFrom_cons rfl, inner, List.contains_cons, Bool.false_or,
        Bool.beq_comm]
    | true =>
      rw [List.cons_append, pathsFrom_blank (blank c List.mem_cons_self), inner, Bool.true_or,
        Bool.true_or]

/-- **The path of a directive is found if a line starts in front of it**, unless it is empty. -/
theorem pathsFrom_directive {d : Directive} (sound : d.Sound) (oneLine : '\n' ∉ d.path)
    (starts : Bool) (rest : List Char) :
    pathsFrom starts (d.text ++ rest) =
      (if starts ∧ d.path ≠ [] then [d.path] else []) ++ pathsFrom false rest := by
  have read := sound.read rest
  by_cases found : starts ∧ d.path ≠ []
  · obtain ⟨rfl, some⟩ := found
    rw [if_neg some] at read
    rw [if_pos ⟨rfl, some⟩, pathsFrom_of_directive read]
    rfl
  · rw [if_neg found, List.nil_append, ← pathsFrom_skip (sound.oneLine_text oneLine)]
    cases starts with
    | false => rfl
    | true =>
      have empty : d.path = [] := by simpa using found
      rw [if_pos empty] at read
      exact pathsFrom_of_none read true

end SolidityRepl.Import
