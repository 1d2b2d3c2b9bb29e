import SolidityRepl.Proofs.Version.Conjunction

/-!
# Keys of ranges

The key of a range is the range without white space around it and without a caret at its start. It
need not let the same releases through.
-/

namespace SolidityRepl.Range

open Text Version

/-! ## Keys that say the same -/

/-- Ranges that can both be read, or neither, and that let the same final releases through. -/
def LetAlike (spec text : String) : Prop :=
  isOverlong spec = isOverlong text ∧
    (isOverlong text = false → ∀ v, v.IsFinal → lets spec v = lets text v)

/-- Ranges with the same word stand for the same, if they name one version. -/
theorem letAlike_of_bare {spec text : String} (same : bare spec = bare text)
    (pinned : (pinned? text).isSome) : LetAlike spec text := by
  have found : pinned? spec = pinned? text := by rw [pinned?, same, pinned?]
  obtain ⟨v, known⟩ := Option.isSome_iff_exists.mp pinned
  constructor
  · unfold isOverlong
    rw [found, known, same]
  · intro _ w _
    unfold lets
    rw [found, known]

/-- White space around a range makes no difference. -/
theorem letAlike_of_strip {spec text : String} (same : strip spec.toList = strip text.toList) :
    LetAlike spec text := by
  have key : normalizedChars spec.toList = normalizedChars text.toList := by
    rw [normalizedChars, same, normalizedChars]
  have pinned : pinned? spec = pinned? text := by rw [pinned?, bare, key, pinned?, bare]
  have clauses : clauses? spec = clauses? text := by rw [clauses?, same, clauses?]
  constructor
  · unfold isOverlong
    rw [bare, bare, key, pinned, clauses]
  · intro _ v _
    unfold lets
    rw [pinned, clauses]

theorem toList_normalized (spec : String) :
    (normalized spec).toList = normalizedChars spec.toList := String.toList_ofList

/-- Without a caret at its start a range is its own key. -/
theorem letAlike_of_head? {spec : String} (other : (strip spec.toList).head? ≠ some '^') :
    LetAlike (normalized spec) spec := by
  have trim := strip_of_trim (trim_strip spec.toList)
  refine letAlike_of_strip ?_
  rw [toList_normalized, normalizedChars, without_of_head? '^' rfl other, trim, trim]

/-- A key that does not begin with a caret is its own key. -/
theorem bare_normalized {spec : String} (other : (normalizedChars spec.toList).head? ≠ some '^') :
    bare (normalized spec) = bare spec := by
  have trim : strip (normalizedChars spec.toList) = normalizedChars spec.toList :=
    strip_of_trim (trim_strip _)
  rw [bare, toList_normalized, normalizedChars, trim, without_of_head? '^' rfl other, trim, bare]

/-- A range that names one version names it with or without a caret. -/
theorem letAlike_of_pinned {spec : String} (pinned : (pinned? spec).isSome) :
    LetAlike (normalized spec) spec := by
  have triple : isTriple (bare spec) = true := by
    by_contra unlike
    rw [pinned?, if_neg unlike] at pinned
    exact Bool.false_ne_true pinned
  refine letAlike_of_bare (bare_normalized fun caret => ?_) pinned
  obtain sign | digit | mark | mark := plain_of_isTriple triple '^' (List.mem_of_head? caret)
  · cases sign
  · cases digit
  · cases mark
  · cases mark

/-! ## Carets at the start of conjunctions -/

theorem hasOverlong_mark (cs : List Char) : hasOverlong ('v' :: cs) = hasOverlong cs := by
  have core : ('v' :: cs).takeWhile (· != '+') = 'v' :: cs.takeWhile (· != '+') := rfl
  rw [hasOverlong, core, List.splitOnP_cons_eq_if_modifyHead, if_pos (by decide), List.length_cons,
    List.drop_succ_cons, List.cons_append, List.any_cons]
  rfl

theorem Comparison.isOverlong_clause (c : Comparison) :
    c.clause.isOverlong = hasOverlong c.numbers := by
  have marks : hasOverlong c.written = hasOverlong c.numbers := by
    rw [written, operand]
    split
    · rfl
    · split
      · exact hasOverlong_mark c.numbers
      · rfl
  rw [Clause.isOverlong, clause, String.toList_ofList, series?_written, Option.getD_none,
    ofChars?_written, marks]
  rfl

theorem Comparison.numbers_faced (c : Comparison) : c.faced.numbers = c.numbers := by
  rw [faced]
  split <;> rfl

/-- The first release of a caret's series is among the releases that it takes. -/
theorem Comparison.takes_caret {c : Comparison} (caret : c.sign = .caret) : c.Takes c.first := by
  rw [Takes, caret]
  cases known : c.patch <;> simp [first, known, nextMinor, nextMajor, Triple.Below]

theorem Conjunction.takes_faced_iff {q : Conjunction} (caret : q.first.sign = .caret)
    {v : Triple} : q.faced.Takes v ↔ v = q.first.first ∧ q.Takes v := by
  have own : q.faced.first.Takes v ↔ v = q.first.first := by
    rw [faced, Comparison.faced, if_pos caret]
    rfl
  have split (p : Conjunction) : p.Takes v ↔ p.first.Takes v ∧ ∀ c ∈ p.others, c.Takes v :=
    List.forall_mem_cons
  rw [split, split, own]
  constructor
  · rintro ⟨rfl, others⟩
    exact ⟨rfl, Comparison.takes_caret caret, others⟩
  · rintro ⟨first, _, others⟩
    exact ⟨first, others⟩

namespace Conjunction.IsRange

variable {q : Conjunction} {spec : String}

theorem bare_normalized (range : q.IsRange spec) : bare (normalized spec) = bare spec := by
  refine Range.bare_normalized ?_
  rw [← toList_normalized]
  exact range.faced.head?_ne q.first.sign_faced_ne

theorem pinned?_normalized (range : q.IsRange spec) :
    pinned? (normalized spec) = pinned? spec := by
  rw [pinned?, range.bare_normalized, pinned?]

/-- The key of a conjunction can be read if the conjunction can. -/
theorem isOverlong_normalized (range : q.IsRange spec) :
    isOverlong (normalized spec) = isOverlong spec := by
  have clauses : (q.faced.all.map (·.clause)).any Clause.isOverlong =
      (q.all.map (·.clause)).any Clause.isOverlong := by
    rw [all, all, List.map_cons, List.map_cons, List.any_cons, List.any_cons,
      Comparison.isOverlong_clause, Comparison.isOverlong_clause, Conjunction.faced,
      Comparison.numbers_faced]
  unfold isOverlong
  rw [range.pinned?_normalized, range.bare_normalized, clauses?_conjunction range,
    clauses?_conjunction range.faced.isRange, Option.getD_some, Option.getD_some, clauses]

/-- **A caret at the start makes no difference to one version, nor where nothing but the first
release of its series is taken.** -/
theorem letAlike_iff (range : q.IsRange spec) (caret : q.first.sign = .caret) :
    LetAlike (normalized spec) spec ↔
      (pinned? spec).isSome ∨ isOverlong spec = true ∨ ∀ v, q.Takes v → v = q.first.first := by
  cases pinned : pinned? spec with
  | some w =>
    have found : (pinned? spec).isSome := by rw [pinned]; rfl
    exact ⟨fun _ => .inl rfl, fun _ => letAlike_of_pinned found⟩
  | none =>
    have whole {v : Version} (out : v.IsFinal) := range.lets_iff pinned out.isRelease
    have key {v : Version} (out : v.IsFinal) :=
      (Range.lets_iff range.faced q.first.sign_faced_ne out.isRelease).trans
        (takes_faced_iff caret)
    rw [LetAlike, range.isOverlong_normalized]
    cases isOverlong spec with
    | true => simp
    | false =>
      simp only [Option.isSome_none, Bool.false_eq_true, false_or, forall_const, true_and]
      constructor
      · intro alike v takes
        have out : IsFinal { release := [v.major, v.minor, v.patch] } := ⟨_, _, _, rfl⟩
        have through := (whole out).mpr takes
        rw [← alike _ out] at through
        exact ((key out).mp through).1
      · intro first v out
        rw [Bool.eq_iff_iff, whole out, key out]
        exact ⟨And.right, fun takes => ⟨first _ takes, takes⟩⟩

end Conjunction.IsRange

/-! ## Keys that are versions -/

theorem isBlank_toLower {ch : Char} (blank : isBlank ch = true) : isBlank ch.toLower = true := by
  have same : ch.toLower = ch := by
    refine dif_neg ?_
    rintro ⟨least, most⟩
    have capital : 65 ≤ ch.toNat := least
    have capital' : ch.toNat ≤ 90 := most
    simp [isBlank] at blank
    omega
  rw [same]
  exact blank

/-- No version begins with a sign. -/
theorem core?_of_sign {ch : Char} (sign : isSign ch = true) (cs : List Char) :
    core? (ch :: cs) = none := by
  have digitless : ch.isDigit = false := by
    rw [Bool.eq_false_iff]
    intro digit
    rw [Comparison.isSign_of_isPlain (.inl digit)] at sign
    cases sign
  have unmarked : ∀ rest, ch :: cs ≠ 'v' :: rest := by
    rintro _ ⟨⟩
    cases sign
  have numberless : number? (ch :: cs) = none := by
    rw [number?, List.takeWhile_cons, digitless]
    rfl
  rw [core?.eq_2 _ unmarked, epochFrom, numberless]
  dsimp only
  rw [release?, numberless]
  rfl

/-- **A conjunction that can be read as a version is that version.** -/
theorem Conjunction.Writes.of_read {q : Conjunction} {text : List Char} (writes : q.Writes text)
    {v : Version} (read : ofChars? text = some v) :
    q.others = [] ∧ q.first.sign = .bare ∧ v = q.first.version := by
  obtain ⟨rest, behind, rfl⟩ := writes
  rw [ofChars?, List.map_append] at read
  cases said : q.first.sign with
  | bare =>
    have ends : Comparison.Ends (rest.map Char.toLower) := by
      intro ch first
      rw [List.head?_map, Option.map_eq_some_iff] at first
      obtain ⟨b, first, rfl⟩ := first
      exact isBlank_toLower (behind.head? b first)
    have operand : q.first.text.map Char.toLower = q.first.operand := by
      rw [Comparison.text, said, q.first.close said]
      exact Comparison.map_toLower_plain fun _ => Comparison.isPlain_of_mem_operand
    rw [operand, q.first.core?_operand ends] at read
    cases rest with
    | nil =>
      obtain ⟨alone, _⟩ := behind.eq_nil (List.forall_mem_nil _)
      cases read
      exact ⟨alone, rfl, rfl⟩
    | cons b rest =>
      have blank := ends b.toLower rfl
      rw [List.map_cons] at read
      generalize b.toLower = b' at blank read
      simp only [Option.bind_eq_bind, Option.bind_some] at read
      split at read
      · rename_i none
        cases none
      · rename_i plus
        cases plus
        cases blank
      · cases read
  | _ =>
    -- the first sign makes it no version
    have signed : q.first.text = q.first.sign.text ++ (q.first.gap ++ q.first.operand) := by
      rw [Comparison.text, List.append_assoc]
    rw [signed, said, Sign.text, List.cons_append, List.map_cons, List.cons_append,
      core?_of_sign (by decide)] at read
    cases read

end SolidityRepl.Range
