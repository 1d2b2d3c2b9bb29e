import SolidityRepl.Text.Lines

namespace SolidityRepl.Text

theorem isBlank_of_isLineBreak {c : Char} (breaks : isLineBreak c = true) : isBlank c = true := by
  simp only [isLineBreak, isBlank, Bool.or_eq_true, Bool.and_eq_true, decide_eq_true_eq,
    beq_iff_eq] at breaks ⊢
  omega

/-- Lines one after the other, each after any number of spaces. -/
inductive Shifted : List (List Char) → List Char → Prop
  | nil : Shifted [] []
  | cons {line rest : List Char} {more : List (List Char)} (width : Nat)
      (shifted : Shifted more rest) :
      Shifted (line :: more) (List.replicate width ' ' ++ (line ++ rest))

/-- A text without its spaces and line feeds. -/
def pressed (cs : List Char) : List Char := cs.filter fun c => c != ' ' && c != '\n'

theorem pressed_append (cs ds : List Char) : pressed (cs ++ ds) = pressed cs ++ pressed ds :=
  List.filter_append ..

theorem pressed_replicate (width : Nat) : pressed (List.replicate width ' ') = [] := by
  simp [pressed]

theorem pressed_newlines (count : Nat) : pressed (List.replicate count '\n') = [] := by
  simp [pressed]

/-- **Lines that are moved lose nothing and get nothing but spaces.** -/
theorem pressed_of_shifted {parts : List (List Char)} {cs : List Char} (shifted : Shifted parts cs) :
    pressed cs = pressed parts.flatten := by
  induction shifted with
  | nil => rfl
  | @cons line rest more width _ ih =>
    rw [pressed_append, pressed_append, pressed_replicate, List.nil_append, List.flatten_cons,
      pressed_append, ih]

theorem shifted_flatten (parts : List (List Char)) : Shifted parts parts.flatten := by
  induction parts with
  | nil => exact .nil
  | cons line more ih => exact .cons 0 ih

theorem shifted_lines (cs : List Char) : Shifted (lines cs) cs := by
  have shifted := shifted_flatten (lines cs)
  rwa [flatten_lines] at shifted

/-- Spaces in front of a text move its first line. -/
theorem shifted_replicate (width : Nat) {cs : List Char} (some : cs ≠ []) :
    Shifted (lines cs) (List.replicate width ' ' ++ cs) := by
  have whole := flatten_lines cs
  cases split : lines cs with
  | nil =>
    rw [split] at whole
    exact absurd whole.symm some
  | cons line more =>
    rw [split] at whole
    rw [← whole, List.flatten_cons]
    exact .cons width (shifted_flatten more)

theorem shifted_indent (width : Nat) (cs : List Char) : Shifted (lines cs) (indent width cs) := by
  unfold indent
  induction lines cs with
  | nil => exact .nil
  | cons line more ih =>
    rw [List.flatMap_cons]
    split
    · exact .cons 0 ih
    · rw [List.append_assoc]
      exact .cons width ih

/-- The text does not end in the middle of nowhere: it has a last character, which ends no line. -/
def Stops (cs : List Char) : Prop := ∃ c, cs.getLast? = some c ∧ isLineBreak c = false

theorem Stops.tail {c : Char} {cs : List Char} (stops : Stops (c :: cs)) (some : cs ≠ []) :
    Stops cs := by
  obtain ⟨last, same, open'⟩ := stops
  obtain ⟨d, more, rfl⟩ := List.exists_cons_of_ne_nil some
  exact ⟨last, by rwa [List.getLast?_cons_cons] at same, open'⟩

theorem Stops.prepend {cs : List Char} (stops : Stops cs) (front : List Char) :
    Stops (front ++ cs) := by
  obtain ⟨last, same, open'⟩ := stops
  refine ⟨last, ?_, open'⟩
  rw [List.getLast?_append, same]
  rfl

/-- One more line, if it is no line feed after a carriage return. -/
theorem lines_cons_of_break {c : Char} (ends : isLineBreak c = true) {cs : List Char}
    (no : c = '\r' → ∀ rest, cs ≠ '\n' :: rest) : lines (c :: cs) = [c] :: lines cs := by
  rw [lines]
  · rw [if_pos ends]
  · exact fun rest same => no same rest

theorem lines_cons_of_open {c : Char} (open' : isLineBreak c = false) (cs : List Char) :
    lines (c :: cs) = match lines cs with
      | [] => [[c]]
      | line :: more => (c :: line) :: more := by
  rw [lines]
  · exact if_neg (by rw [open']; exact Bool.false_ne_true)
  · rintro rest rfl
    exact absurd open' (by decide)

/-- **A line feed ends the last line of a text**, and what follows has lines of its own. -/
theorem lines_append_newline {cs : List Char} (stops : Stops cs) (ds : List Char) :
    ∃ front last, lines cs = front ++ [last] ∧
      lines (cs ++ '\n' :: ds) = front ++ (last ++ ['\n']) :: lines ds := by
  fun_induction lines cs with
  | case1 =>
    obtain ⟨c, last, -⟩ := stops
    cases last
  | case2 rest ih =>
    have some : rest ≠ [] := by
      rintro rfl
      obtain ⟨c, last, open'⟩ := stops
      cases last
      exact absurd open' (by decide)
    have some' : '\n' :: rest ≠ [] := List.cons_ne_nil _ _
    obtain ⟨front, last, split, split'⟩ := ih ((stops.tail some').tail some)
    refine ⟨['\r', '\n'] :: front, last, by rw [split]; rfl, ?_⟩
    rw [List.cons_append, List.cons_append, lines, split']
    rfl
  | case3 c rest no ends ih =>
    have some : rest ≠ [] := by
      rintro rfl
      obtain ⟨d, last, open'⟩ := stops
      obtain rfl : c = d := Option.some.inj last
      rw [ends] at open'
      cases open'
    obtain ⟨front, last, split, split'⟩ := ih (stops.tail some)
    refine ⟨[c] :: front, last, by rw [split]; rfl, ?_⟩
    rw [List.cons_append, lines_cons_of_break ends, split']
    · rfl
    · rintro rfl more same
      obtain ⟨d, rest, rfl⟩ := List.exists_cons_of_ne_nil some
      obtain ⟨rfl, -⟩ := List.cons.inj same
      exact no rest rfl rfl
  | case4 c rest no open' none ih =>
    have rest' : rest = [] := by
      have whole := flatten_lines rest
      rw [none] at whole
      exact whole.symm
    subst rest'
    refine ⟨[], [c], rfl, ?_⟩
    have feed : lines ('\n' :: ds) = ['\n'] :: lines ds :=
      lines_cons_of_break (by decide) fun same => absurd same (by decide)
    rw [List.cons_append, List.nil_append, lines_cons_of_open (by simpa using open'), feed]
    rfl
  | case5 c rest no open' line more split ih =>
    have some : rest ≠ [] := by
      rintro rfl
      cases split
    obtain ⟨front, last, split', split''⟩ := ih (stops.tail some)
    rw [List.cons_append, lines_cons_of_open (by simpa using open'), split'']
    cases front with
    | nil =>
      rw [split'] at split
      obtain ⟨rfl, rfl⟩ := List.cons.inj split
      exact ⟨[], c :: last, rfl, rfl⟩
    | cons first front =>
      rw [split'] at split
      obtain ⟨rfl, rfl⟩ := List.cons.inj split
      exact ⟨(c :: first) :: front, last, rfl, rfl⟩

/-- **Texts one below the other are indented one by one.** -/
theorem indent_append_newline (width : Nat) {cs : List Char} (stops : Stops cs) (ds : List Char) :
    indent width (cs ++ '\n' :: ds) = indent width cs ++ '\n' :: indent width ds := by
  obtain ⟨front, last, split, split'⟩ := lines_append_newline stops ds
  have blank : isBlankLine (last ++ ['\n']) = isBlankLine last := by
    have feed : isBlank '\n' = true := by decide
    simp [isBlankLine, feed]
  unfold indent
  rw [split, split', List.flatMap_append, List.flatMap_append, List.flatMap_cons, List.flatMap_cons,
    List.flatMap_nil, blank]
  split <;> simp

theorem indent_newlines (width count : Nat) (ds : List Char) :
    indent width (List.replicate count '\n' ++ ds) =
      List.replicate count '\n' ++ indent width ds := by
  induction count with
  | zero => rfl
  | succ count ih =>
    have feed : lines ('\n' :: (List.replicate count '\n' ++ ds)) =
        ['\n'] :: lines (List.replicate count '\n' ++ ds) :=
      lines_cons_of_break (by decide) fun same => absurd same (by decide)
    have blank : isBlankLine ['\n'] = true := by decide
    rw [List.replicate_succ, List.cons_append, indent, feed, List.flatMap_cons, if_pos blank]
    exact congrArg ('\n' :: ·) ih

theorem indent_zero (cs : List Char) : indent 0 cs = cs := by
  simp only [indent, List.replicate_zero, List.nil_append, ite_self, List.flatMap_id', flatten_lines]

/-- Texts one below the other, each shifted, with a line feed or more after it. -/
inductive Stacked : List (List Char) → List Char → Prop
  | nil : Stacked [] []
  | cons {text shown rest : List Char} {more : List (List Char)}
      (shifted : Shifted (lines text) shown) (feeds : Nat) (below : Stacked more rest) :
      Stacked (text :: more) (shown ++ List.replicate (feeds + 1) '\n' ++ rest)

variable {texts more : List (List Char)} {cs ds : List Char}

theorem Stacked.append (above : Stacked texts cs) (below : Stacked more ds) :
    Stacked (texts ++ more) (cs ++ ds) := by
  induction above with
  | nil => exact below
  | cons shifted feeds _ ih =>
    rw [List.append_assoc]
    exact .cons shifted feeds ih

theorem stacked_one {text shown : List Char} (shifted : Shifted (lines text) shown) (feeds : Nat) :
    Stacked [text] (shown ++ List.replicate (feeds + 1) '\n') := by
  have one := Stacked.cons shifted feeds .nil
  rwa [List.append_nil] at one

/-- **Stacking loses nothing and adds nothing but spaces and line feeds.** -/
theorem pressed_of_stacked (stacked : Stacked texts cs) : pressed cs = pressed texts.flatten := by
  induction stacked with
  | nil => rfl
  | cons shifted feeds _ ih =>
    rw [pressed_append, pressed_append, pressed_newlines, List.append_nil,
      pressed_of_shifted shifted, flatten_lines, ih, List.flatten_cons, pressed_append]

/-- **A text of several texts is indented text by text.** -/
theorem stacked_indent (width between after : Nat) (some : texts ≠ [])
    (stops : ∀ text ∈ texts, Stops text) :
    Stacked texts (indent width ((List.replicate (between + 1) '\n').intercalate texts) ++
      List.replicate (after + 1) '\n') := by
  induction texts with
  | nil => exact absurd rfl some
  | cons text more ih =>
    cases more with
    | nil =>
      rw [List.intercalate_singleton]
      exact stacked_one (shifted_indent width text) after
    | cons next more =>
      have first : Stops text := stops text List.mem_cons_self
      have below := ih (List.cons_ne_nil next more) fun text mem =>
        stops text (List.mem_cons_of_mem _ mem)
      rw [List.intercalate_cons_cons, List.append_assoc, List.replicate_succ, List.cons_append,
        indent_append_newline width first, indent_newlines]
      have whole := Stacked.cons (shifted_indent width text) between below
      simpa [List.replicate_succ] using whole

/-- Lines that are joined, and a line feed after the last. -/
theorem intercalate_newline {parts : List (List Char)} (some : parts ≠ []) :
    ['\n'].intercalate parts ++ ['\n'] = parts.flatMap (· ++ ['\n']) := by
  induction parts with
  | nil => exact absurd rfl some
  | cons part more ih =>
    cases more with
    | nil => simp
    | cons next more =>
      rw [List.intercalate_cons_cons, List.append_assoc, ih (List.cons_ne_nil next more)]
      rfl

/-- Texts one below the other are indented one by one, and the last of them too. -/
theorem indent_intercalate (width : Nat) {texts : List (List Char)}
    (stops : ∀ text ∈ texts, Stops text) (last : List Char) :
    indent width (['\n'].intercalate (texts ++ [last])) =
      texts.flatMap (fun text => indent width text ++ ['\n']) ++ indent width last := by
  induction texts with
  | nil => simp
  | cons text more ih =>
    have first : Stops text := stops text List.mem_cons_self
    have below := ih fun text mem => stops text (List.mem_cons_of_mem _ mem)
    have joined : ['\n'].intercalate (text :: more ++ [last]) =
        text ++ '\n' :: ['\n'].intercalate (more ++ [last]) := by
      cases more <;> simp [List.intercalate_cons_cons]
    rw [joined, indent_append_newline width first, below]
    simp

/-- What is joined ends in the last part. -/
theorem exists_intercalate_concat (between : List Char) (parts : List (List Char))
    (last : List Char) : ∃ front, between.intercalate (parts ++ [last]) = front ++ last := by
  induction parts with
  | nil => exact ⟨[], by simp⟩
  | cons part more ih =>
    obtain ⟨front, joined⟩ := ih
    cases more with
    | nil => exact ⟨part ++ between, by simp [List.intercalate_cons_cons]⟩
    | cons next more =>
      refine ⟨part ++ between ++ front, ?_⟩
      simp only [List.cons_append, List.intercalate_cons_cons, List.append_assoc] at joined ⊢
      rw [joined]

end SolidityRepl.Text
