import SolidityRepl.Proofs.Import.Comment
import SolidityRepl.Proofs.Import.Form

/-!
# Directives and lines

A source holds directives with white space between them, or comments. Comments have no part in which
directives are found, but lines do: a directive behind another one on its line is passed over, and so
is one behind anything else that a semicolon ends. An empty path is never found.

* `Item`, `layout`: directives and others, with white space in front of each;
* `marks`, `pathsFrom_layout`: which of them a line starts at, and that these are found;
* `pathsOf_layout`: when all of them are;
* `Line`, `pathsOf_lines`: directives and comments, each on lines of its own.
-/

namespace SolidityRepl.Import

open Text

/-- A directive on one line, in which no comment starts. -/
structure Directive.Calm (d : Directive) : Prop extends d.Sound where
  oneLine : '\n' ∉ d.path
  silent : Silent d.path

theorem Directive.Calm.withoutComments_text {d : Directive} (calm : d.Calm) (rest : List Char) :
    withoutComments (d.text ++ rest) = d.text ++ withoutComments rest := by
  have lead : '/' ∉ "import".toList ++ d.form.lead := by
    have tame : '/' ∉ d.form.lead := fun mem => (isTame_iff.mp (calm.tame_lead _ mem)).2.2.1 rfl
    simp [tame]
  have trail : '/' ∉ d.form.trail ++ [';'] := by
    have tame : '/' ∉ d.form.trail := fun mem => (isTame_iff.mp (calm.tame_trail _ mem)).2.2.1 rfl
    simp [tame]
  have noSlash : d.quote ≠ '/' := fun same => absurd calm.quoted (same ▸ by decide)
  have noStar : d.quote ≠ '*' := fun same => absurd calm.quoted (same ▸ by decide)
  calc withoutComments (d.text ++ rest)
      = withoutComments (("import".toList ++ d.form.lead) ++
          d.quote :: (d.path ++ d.quote :: ((d.form.trail ++ [';']) ++ rest))) := by
        rw [text_append]
        simp only [List.append_assoc, List.cons_append, List.nil_append]
    _ = ("import".toList ++ d.form.lead) ++
          d.quote :: (d.path ++ d.quote :: ((d.form.trail ++ [';']) ++ withoutComments rest)) := by
        rw [withoutComments_slashless lead, withoutComments_other noSlash,
          calm.silent.withoutComments_append noSlash noStar, withoutComments_slashless trail]
    _ = d.text ++ withoutComments rest := by
        rw [text_append]
        simp only [List.append_assoc, List.cons_append, List.nil_append]

theorem withoutComments_gap {gap : List Char} (blank : Blank gap) (rest : List Char) :
    withoutComments (gap ++ rest) = gap ++ withoutComments rest :=
  withoutComments_slashless (fun mem => absurd (blank _ mem) (by decide)) rest

/-! ## Directives with white space between them -/

/-- A directive, or something else that a semicolon ends. -/
inductive Item where
  | directive (d : Directive)
  | other (text : List Char)

def Item.text : Item → List Char
  | directive d => d.text
  | other text => text ++ [';']

/-- Something on one line that is no import and in which no comment starts. -/
structure IsOther (text : List Char) : Prop where
  oneLine : '\n' ∉ text
  silent : Silent text
  solid : ∀ c ∈ text.head?, isBlank c = false
  foreign : ∀ c more, text = "import".toList ++ c :: more → isBlank c = false

/-- An item that can be found where it stands, or that is none to be found. -/
def Item.Sound : Item → Prop
  | directive d => d.Calm
  | other text => IsOther text

/-- An item with the white space in front of it. -/
structure Placed where
  gap : List Char
  item : Item

structure Placed.Sound (placed : Placed) : Prop where
  blank : Blank placed.gap
  item : placed.item.Sound

def layout (items : List Placed) : List Char :=
  items.flatMap fun placed => placed.gap ++ placed.item.text

/-- The paths of all directives, each with whether a line starts in front of its directive. `starts`
tells whether one starts in front of everything. -/
def marks (starts : Bool) : List Placed → List (Bool × List Char)
  | [] => []
  | ⟨gap, .directive d⟩ :: more => (starts || gap.contains '\n', d.path) :: marks false more
  | ⟨_, .other _⟩ :: more => marks false more

/-- A path of a directive that a line starts at, unless it is empty. -/
def isFound (mark : Bool × List Char) : Bool := mark.1 && !mark.2.isEmpty

section

variable {text rest : List Char} {item : Item} {items : List Placed}

theorem introducesPath_solid {c : Char} (solid : isBlank c = false) (names : List Char) :
    introducesPath (c :: names) = false := by
  have kept : ∃ more, stripEnd (c :: names) = c :: more := by
    obtain ⟨back, cut⟩ : stripEnd (c :: names) <+: c :: names := List.rdropWhile_prefix isBlank _
    cases front : stripEnd (c :: names) with
    | nil =>
      have blank := List.rdropWhile_eq_nil_iff.mp front c List.mem_cons_self
      rw [solid] at blank
      cases blank
    | cons d more =>
      rw [front] at cut
      obtain ⟨rfl, -⟩ := List.cons.inj cut
      exact ⟨more, rfl⟩
  obtain ⟨more, front⟩ := kept
  have bare : areNames ((c :: more).take ((c :: more).length - 4)) = false := by
    cases length : (c :: more).length - 4 with
    | zero => rfl
    | succ n => simp [areNames, solid]
  simp only [introducesPath, front, bare]
  simp

/-- No white space follows the keyword of imports where no import stands. -/
theorem IsOther.solid_after (other : IsOther text) {more : List Char}
    (keyword : "import".toList ++ more = text ++ ';' :: rest) :
    ∀ c cs, more = c :: cs → isBlank c = false := by
  rintro c cs rfl
  obtain ⟨between, same, cut⟩ | ⟨between, same, cut⟩ := List.append_eq_append_iff.mp keyword
  · cases between with
    | nil =>
      obtain ⟨rfl, -⟩ := List.cons.inj cut
      decide
    | cons d between =>
      obtain ⟨rfl, -⟩ := List.cons.inj cut
      exact other.foreign _ _ same
  · cases between with
    | nil =>
      obtain ⟨rfl, -⟩ := List.cons.inj cut
      decide
    | cons d between =>
      -- the semicolon would be one of the letters of the keyword
      obtain ⟨rfl, -⟩ := List.cons.inj cut
      have letter : ';' ∈ "import".toList := same ▸ List.mem_append_right _ List.mem_cons_self
      exact absurd letter (by decide)

/-- What is no import is not read as a directive. -/
theorem IsOther.unread (other : IsOther text) (rest : List Char) :
    directive? (text ++ ';' :: rest) = none := by
  have strip : stripStart (text ++ ';' :: rest) = text ++ ';' :: rest := by
    cases text with
    | nil => rfl
    | cons c text => simp [stripStart, other.solid c rfl]
  have unread : fromQuote? (text ++ ';' :: rest) = none := by
    rw [fromQuote?, strip]
    cases keyword : "import".toList.isPrefixOf? (text ++ ';' :: rest) with
    | none => rfl
    | some more =>
      have solid := other.solid_after (append_of_isPrefixOf? keyword)
      cases more with
      | nil => rfl
      | cons c more =>
        cases ends : endsNames c with
        | true =>
          have nameless : introducesPath [] = false := rfl
          simp [ends, nameless]
        | false => simp [ends, introducesPath_solid (solid c more rfl)]
  rw [directive?, unread]

theorem Item.Sound.withoutComments_text (sound : item.Sound) (rest : List Char) :
    withoutComments (item.text ++ rest) = item.text ++ withoutComments rest := by
  cases item with
  | directive d => exact Directive.Calm.withoutComments_text sound rest
  | other text =>
    have other : IsOther text := sound
    rw [Item.text, List.append_assoc, List.append_assoc]
    exact other.silent.withoutComments_append (by decide) (by decide) rest

/-- Between sound items no comment starts. -/
theorem withoutComments_layout (sound : ∀ placed ∈ items, placed.Sound) :
    withoutComments (layout items) = layout items := by
  induction items with
  | nil => exact withoutComments_nil
  | cons placed more ih =>
    have first := sound placed List.mem_cons_self
    rw [layout, List.flatMap_cons, List.append_assoc, withoutComments_gap first.blank,
      first.item.withoutComments_text, ← layout, ih fun p mem => sound p (List.mem_cons_of_mem _ mem)]

/-- **The directives that a line starts at are found**, in their order. -/
theorem pathsFrom_layout (sound : ∀ placed ∈ items, placed.Sound) (starts : Bool) :
    pathsFrom starts (layout items) = ((marks starts items).filter isFound).map (·.2) := by
  induction items generalizing starts with
  | nil => exact pathsFrom_nil starts
  | cons placed more ih =>
    have first := sound placed List.mem_cons_self
    have rest := ih (fun p mem => sound p (List.mem_cons_of_mem _ mem)) false
    obtain ⟨gap, item⟩ := placed
    have cut : layout (⟨gap, item⟩ :: more) = gap ++ (item.text ++ layout more) := by
      simp [layout]
    rw [cut, pathsFrom_gap first.blank]
    cases item with
    | directive d =>
      have calm : d.Calm := first.item
      rw [Item.text, pathsFrom_directive calm.toSound calm.oneLine, rest, marks, List.filter_cons,
        isFound]
      cases (starts || gap.contains '\n') <;> cases d.path <;> simp
    | other text =>
      have other : IsOther text := first.item
      have unread := other.unread (layout more)
      have oneLine : '\n' ∉ text ++ [';'] := by simp [other.oneLine]
      have whole : (text ++ [';']) ++ layout more = text ++ ';' :: layout more := by simp
      rw [Item.text, whole, pathsFrom_of_none unread, ← whole, pathsFrom_skip oneLine, rest, marks]

end

/-- **All directives are found exactly if each of them starts a line**, which one behind another does
only if there is a line feed in the white space between them, and if no path is empty. -/
theorem pathsOf_layout {items : List Placed} (sound : ∀ placed ∈ items, placed.Sound) :
    let found := pathsOf (String.ofList (layout items))
    found = ((marks true items).filter isFound).map (fun mark => String.ofList mark.2) ∧
      (found = (marks true items).map (fun mark => String.ofList mark.2) ↔
        ∀ mark ∈ marks true items, mark.1 = true ∧ mark.2 ≠ []) := by
  intro found
  have filtered :
      found = ((marks true items).filter isFound).map (fun mark => String.ofList mark.2) := by
    show pathsOf (String.ofList (layout items)) = _
    rw [pathsOf, String.toList_ofList, withoutComments_layout sound, pathsFrom_layout sound,
      List.map_map]
    rfl
  refine ⟨filtered, ?_⟩
  have isFound_iff (mark : Bool × List Char) :
      isFound mark = true ↔ mark.1 = true ∧ mark.2 ≠ [] := by simp [isFound]
  rw [filtered]
  constructor
  · intro all mark mem
    have length := congrArg List.length all
    rw [List.length_map, List.length_map, List.length_filter_eq_length_iff] at length
    exact (isFound_iff mark).mp (length mark mem)
  · intro all
    rw [List.filter_eq_self.mpr fun mark mem => (isFound_iff mark).mpr (all mark mem)]

/-- A pragma and a directive on one line, and two directives on the next. -/
def crowded : List Placed :=
  [⟨[], .other "pragma solidity ^0.8.0".toList⟩, ⟨[' '], .directive ⟨.unit, '"', "a.sol".toList⟩⟩,
    ⟨['\n'], .directive ⟨.unit, '"', "b.sol".toList⟩⟩,
    ⟨['\t'], .directive ⟨.unit, '\'', "c.sol".toList⟩⟩]

/-- A directive with a path on one line, without slashes or quotes. -/
def Directive.isSimple (d : Directive) : Bool :=
  isQuote d.quote && d.form.names.all (·.all isNameChar) &&
    d.path.all fun c => !isQuote c && c != '\n' && c != '/'

theorem Directive.calm_of_isSimple {d : Directive} (simple : d.isSimple = true) : d.Calm := by
  simp only [isSimple, Bool.and_eq_true, List.all_eq_true, Bool.not_eq_true', bne_iff_ne] at simple
  obtain ⟨⟨quoted, named⟩, plain⟩ := simple
  exact {
    named
    quoted
    quoteless := fun c mem => (plain c mem).1.1
    oneLine := fun mem => (plain _ mem).1.2 rfl
    silent := silent_slashless fun mem => (plain _ mem).2 rfl }

/-- Of directives that share a line the first one is found, unless something stands in front. -/
theorem pathsOf_layout_crowded :
    (∀ placed ∈ crowded, placed.Sound) ∧
      pathsOf (String.ofList (layout crowded)) = ["b.sol"] := by
  have sound : ∀ placed ∈ crowded, placed.Sound := by
    intro placed mem
    simp only [crowded, List.mem_cons, List.not_mem_nil, or_false] at mem
    obtain rfl | rfl | rfl | rfl := mem
    · have oneLine : '\n' ∉ "pragma solidity ^0.8.0".toList := by decide +kernel
      have silent : Silent "pragma solidity ^0.8.0".toList := silent_slashless (by decide +kernel)
      have first : "pragma solidity ^0.8.0".toList.head? = some 'p' := by decide +kernel
      refine ⟨blank_nil, oneLine, silent, ?_, fun c more same => ?_⟩
      · rw [first]
        rintro c ⟨⟩
        decide
      · cases same
    · exact ⟨by decide +kernel, Directive.calm_of_isSimple (by decide +kernel)⟩
    · exact ⟨by decide +kernel, Directive.calm_of_isSimple (by decide +kernel)⟩
    · exact ⟨by decide +kernel, Directive.calm_of_isSimple (by decide +kernel)⟩
  exact ⟨sound, (pathsOf_layout sound).1⟩

/-- **A directive behind another one on its line is passed over**, and so is one behind a pragma. -/
theorem pathsOf_one_line :
    pathsOf "import \"a.sol\"; import \"b.sol\";" = ["a.sol"] ∧
      pathsOf "pragma solidity ^0.8.0; import \"a.sol\";" = [] := by
  decide +kernel

/-! ## Directives and comments on lines of their own -/

/-- A directive or a comment, each behind white space. -/
inductive Line where
  | directive (indent : List Char) (d : Directive)
  | lineComment (indent content : List Char)
  | blockComment (indent content : List Char)

namespace Line

/-- A line as it is written, its line feed apart. -/
def text : Line → List Char
  | directive indent d => indent ++ d.text
  | lineComment indent content => indent ++ '/' :: '/' :: content
  | blockComment indent content => indent ++ '/' :: '*' :: (content ++ ['*', '/'])

def path? : Line → Option (List Char)
  | directive _ d => some d.path
  | _ => none

/-- A directive that can be found, a comment that ends with its line, or one that its first end mark
ends. What a comment says is of no account. -/
def Sound : Line → Prop
  | directive indent d => Blank indent ∧ d.Calm
  | lineComment indent content => Blank indent ∧ '\n' ∉ content
  | blockComment indent content => Blank indent ∧ ¬['*', '/'] <:+: content

/-- What is left of a line without comments. -/
def left : Line → List Char
  | directive indent d => indent ++ d.text
  | lineComment indent _ | blockComment indent _ => indent

variable {line : Line}

theorem Sound.withoutComments_text (sound : line.Sound) (rest : List Char) :
    withoutComments (line.text ++ '\n' :: rest) = line.left ++ '\n' :: withoutComments rest := by
  have newline : withoutComments ('\n' :: rest) = '\n' :: withoutComments rest :=
    withoutComments_other (by decide) rest
  cases line with
  | directive indent d =>
    obtain ⟨blank, calm⟩ := sound
    rw [text, List.append_assoc, withoutComments_gap blank, calm.withoutComments_text, newline,
      left, List.append_assoc]
  | lineComment indent content =>
    obtain ⟨blank, oneLine⟩ := sound
    rw [text, List.append_assoc, withoutComments_gap blank, List.cons_append, List.cons_append,
      withoutComments_line oneLine, left]
  | blockComment indent content =>
    obtain ⟨blank, closed⟩ := sound
    have cut : indent ++ '/' :: '*' :: (content ++ ['*', '/']) ++ '\n' :: rest =
        indent ++ '/' :: '*' :: (content ++ '*' :: '/' :: '\n' :: rest) := by simp
    rw [text, cut, withoutComments_gap blank, withoutComments_block closed, newline, left]

theorem Sound.pathsFrom_left (sound : line.Sound) (rest : List Char) :
    pathsFrom true (line.left ++ '\n' :: rest) =
      line.path?.toList.filter (!·.isEmpty) ++ pathsFrom true rest := by
  have newline : pathsFrom false ('\n' :: rest) = pathsFrom true rest := pathsFrom_cons rfl
  cases line with
  | directive indent d =>
    obtain ⟨blank, calm⟩ := sound
    rw [left, List.append_assoc, pathsFrom_gap blank,
      pathsFrom_directive calm.toSound calm.oneLine, newline, path?]
    cases d.path <;> simp
  | lineComment indent _ | blockComment indent _ =>
    obtain ⟨blank, -⟩ := sound
    rw [left, pathsFrom_gap blank, Bool.true_or, pathsFrom_blank (by decide)]
    rfl

end Line

def page (lines : List Line) : List Char := lines.flatMap fun line => line.text ++ ['\n']

/-- **Comments neither add nor hide directives**, whatever they say: the paths of the directives are
found, in their order, but for empty ones. -/
theorem pathsOf_lines {lines : List Line} (sound : ∀ line ∈ lines, line.Sound) :
    pathsOf (String.ofList (page lines)) =
      ((lines.filterMap Line.path?).filter (!·.isEmpty)).map String.ofList := by
  rw [pathsOf, String.toList_ofList]
  congr 1
  induction lines with
  | nil => decide +kernel
  | cons line more ih =>
    have first := sound line List.mem_cons_self
    have cut : page (line :: more) = line.text ++ '\n' :: page more := by simp [page]
    rw [cut, first.withoutComments_text, first.pathsFrom_left,
      ih fun l mem => sound l (List.mem_cons_of_mem _ mem), ← List.filter_append]
    cases path : line.path? <;> simp [path]

/-- Comments full of directives and of marks of other comments, with directives between them. -/
def remarks : List Line :=
  [.lineComment [] " import \"a.sol\"; /*".toList,
    .directive [' '] ⟨.symbols [⟨['A'], none⟩, ⟨['B'], some ['C']⟩], '"', "b.sol".toList⟩,
    .blockComment [] "/ // import 'c.sol';\nimport 'd.sol'; *".toList,
    .directive [] ⟨.everythingAs ['X'], '\'', "e.sol".toList⟩]

/-- Only what stands outside of comments is found. -/
theorem pathsOf_lines_remarks :
    (∀ line ∈ remarks, line.Sound) ∧
      pathsOf (String.ofList (page remarks)) = ["b.sol", "e.sol"] := by
  have sound : ∀ line ∈ remarks, line.Sound := by
    intro line mem
    simp only [remarks, List.mem_cons, List.not_mem_nil, or_false] at mem
    obtain rfl | rfl | rfl | rfl := mem
    · exact ⟨blank_nil, by decide +kernel⟩
    · exact ⟨by decide +kernel, Directive.calm_of_isSimple (by decide +kernel)⟩
    · exact ⟨blank_nil, by decide +kernel⟩
    · exact ⟨blank_nil, Directive.calm_of_isSimple (by decide +kernel)⟩
  exact ⟨sound, pathsOf_lines sound⟩

/-- **A directive without a path is not found.** -/
theorem pathsOf_pathless :
    Line.Sound (.directive [] ⟨.unit, '"', []⟩) ∧
      pathsOf (String.ofList (page [.directive [] ⟨.unit, '"', []⟩])) ≠
        ([.directive [] ⟨.unit, '"', []⟩].filterMap Line.path?).map String.ofList := by
  refine ⟨⟨blank_nil, Directive.calm_of_isSimple (by decide +kernel)⟩, ?_⟩
  decide +kernel

end SolidityRepl.Import
