import SolidityRepl.Proofs.Version.Comparison

/-!
# Conjunctions

Comparisons with white space between them, all of which must hold. As the key of a range such a
conjunction loses the white space around it and a caret at its start, so that its first comparison
becomes an equality.

* `Conjunction.Writes`, `Conjunction.IsRange`: how conjunctions are written;
* `Conjunction.faced`, `Conjunction.IsRange.faced`: what the key of a conjunction says;
* `clauses?_conjunction`: one clause for each comparison;
* `lets`, `lets_iff`: a conjunction lets through the releases that all its comparisons take.
-/

namespace SolidityRepl.Range

open Text Version

/-! ## How conjunctions are written -/

structure Conjunction where
  first : Comparison
  others : List Comparison

inductive Behind : List Comparison → List Char → Prop
  | none : Behind [] []
  | more {gap rest : List Char} {c : Comparison} {cs : List Comparison} (apart : gap ≠ [])
      (blank : Blank gap) (behind : Behind cs rest) : Behind (c :: cs) (gap ++ (c.text ++ rest))

namespace Conjunction

def all (q : Conjunction) : List Comparison := q.first :: q.others

/-- A text that writes a conjunction, with no white space around it. -/
def Writes (q : Conjunction) (text : List Char) : Prop :=
  ∃ rest, Behind q.others rest ∧ text = q.first.text ++ rest

/-- A range that is a conjunction, with white space around it. -/
def IsRange (q : Conjunction) (spec : String) : Prop :=
  ∃ lead body trail, Blank lead ∧ Blank trail ∧ q.Writes body ∧
    spec.toList = lead ++ (body ++ trail)

/-- The releases that all comparisons mean. -/
def Admits (q : Conjunction) (v : Triple) : Prop := ∀ c ∈ q.all, c.Admits v

/-- The releases that the clauses of all comparisons let through. -/
def Takes (q : Conjunction) (v : Triple) : Prop := ∀ c ∈ q.all, c.Takes v

end Conjunction

/-- A comparison without its caret, if it has one. -/
def Comparison.faced (c : Comparison) : Comparison :=
  if c.sign = .caret then
    { c with sign := .bare, gap := [], blank := nofun, close := fun _ => rfl }
  else c

/-- A conjunction without a caret at its start. -/
def Conjunction.faced (q : Conjunction) : Conjunction := { q with first := q.first.faced }

/-! ## The ends of a text -/

namespace Comparison

theorem operand_eq_cons (c : Comparison) :
    ∃ d rest, c.operand = d :: rest ∧ (d.isDigit = true ∨ d = 'v') := by
  obtain ⟨d, rest, shape, digit⟩ := c.numbers_eq_cons
  rw [operand]
  split
  · exact ⟨'v', _, rfl, .inr rfl⟩
  · exact ⟨d, rest, shape, .inl digit⟩

/-- No white space comes first. -/
theorem text_eq_cons (c : Comparison) :
    ∃ d rest, c.text = d :: rest ∧ isBlank d = false := by
  obtain ⟨d, rest, shape, _⟩ := c.operand_eq_cons
  have solid : isBlank d = false :=
    isBlank_of_isPlain (isPlain_of_mem_operand (shape ▸ List.mem_cons_self))
  rw [text]
  cases said : c.sign with
  | bare => exact ⟨d, rest, by rw [c.close said, shape]; rfl, solid⟩
  | _ => exact ⟨_, _, rfl, by decide⟩

/-- A digit comes last. -/
theorem text_eq_concat (c : Comparison) : ∃ front d, c.text = front ++ [d] ∧ isBlank d = false := by
  obtain ⟨front, d, shape, digit⟩ := c.numbers_eq_concat
  rw [text, operand]
  split
  · exact ⟨c.sign.text ++ c.gap ++ 'v' :: front, d, by simp [shape],
      isBlank_of_isPlain (.inl digit)⟩
  · exact ⟨c.sign.text ++ c.gap ++ front, d, by simp [shape], isBlank_of_isPlain (.inl digit)⟩

end Comparison

/-- What follows begins with white space, if anything follows. -/
theorem Behind.head? {cs : List Comparison} {rest : List Char} (behind : Behind cs rest) :
    ∀ ch, rest.head? = some ch → isBlank ch = true := by
  cases behind with
  | none => exact fun _ first => nomatch first
  | @more gap _ _ _ apart blank _ =>
    obtain ⟨b, gap, rfl⟩ := List.exists_cons_of_ne_nil apart
    rintro _ ⟨⟩
    exact blank b List.mem_cons_self

/-- Without white space nothing follows. -/
theorem Behind.eq_nil {cs : List Comparison} {rest : List Char} (behind : Behind cs rest)
    (solid : ∀ ch ∈ rest, isBlank ch = false) : cs = [] ∧ rest = [] := by
  cases behind with
  | none => exact ⟨rfl, rfl⟩
  | @more gap _ _ _ apart blank _ =>
    obtain ⟨b, gap, rfl⟩ := List.exists_cons_of_ne_nil apart
    have never := solid b List.mem_cons_self
    rw [blank b List.mem_cons_self] at never
    cases never

/-- White space does not come last. -/
theorem Behind.getLast? {cs : List Comparison} {rest : List Char} (behind : Behind cs rest)
    {c : Comparison} {ch : Char} (front : List Char)
    (last : (front ++ (c.text ++ rest)).getLast? = some ch) : isBlank ch = false := by
  induction behind generalizing c front with
  | none =>
    obtain ⟨before, d, shape, solid⟩ := c.text_eq_concat
    rw [List.append_nil, shape, ← List.append_assoc, List.getLast?_concat] at last
    cases last
    exact solid
  | @more gap rest next cs apart blank behind ih =>
    refine @ih next (front ++ (c.text ++ gap)) ?_
    rw [← last]
    simp only [List.append_assoc]

namespace Conjunction

theorem Writes.trim {q : Conjunction} {text : List Char} (writes : q.Writes text) : Trim text := by
  obtain ⟨rest, behind, rfl⟩ := writes
  refine ⟨fun ch first => ?_, fun ch last => behind.getLast? [] last⟩
  obtain ⟨d, more, shape, solid⟩ := q.first.text_eq_cons
  rw [shape, List.cons_append] at first
  cases first
  exact solid

theorem Writes.isRange {q : Conjunction} {spec : String} (writes : q.Writes spec.toList) :
    q.IsRange spec :=
  ⟨[], spec.toList, [], blank_nil, blank_nil, writes, by rw [List.append_nil, List.nil_append]⟩

/-- The white space around a conjunction is stripped. -/
theorem IsRange.strip {q : Conjunction} {spec : String} (range : q.IsRange spec) :
    q.Writes (strip spec.toList) := by
  obtain ⟨lead, body, trail, before, after, writes, whole⟩ := range
  rwa [whole, strip_padded before after writes.trim]

end Conjunction

/-! ## The key of a conjunction -/

/-- A text that begins otherwise is left alone. -/
theorem without_of_head? {front : String} (sign : Char) (alone : front.toList = [sign])
    {cs : List Char} (other : cs.head? ≠ some sign) : without front cs = cs := by
  rw [without, alone]
  cases cs with
  | nil => rfl
  | cons c rest =>
    have differs : (sign == c) = false := beq_eq_false_iff_ne.mpr fun same => other (same ▸ rfl)
    rw [List.isPrefixOf?, differs]
    rfl

/-- White space around a range makes no difference to its key. -/
theorem normalizedChars_strip (cs : List Char) :
    normalizedChars (strip cs) = normalizedChars cs := by
  rw [normalizedChars, strip_of_trim (trim_strip cs), normalizedChars]

theorem without_cons {front : String} {sign : Char} (alone : front.toList = [sign])
    (rest : List Char) : without front (sign :: rest) = rest := by
  rw [without, alone, List.isPrefixOf?, beq_self_eq_true]
  rfl

theorem Comparison.text_faced_of_caret {c : Comparison} (caret : c.sign = .caret) :
    c.faced.text = c.operand := by
  rw [faced, if_pos caret]
  rfl

theorem Comparison.sign_faced_ne (c : Comparison) : c.faced.sign ≠ .caret := by
  rw [faced]
  split
  · exact nofun
  · assumption

theorem Comparison.head?_text_ne {c : Comparison} (other : c.sign ≠ .caret) (rest : List Char) :
    (c.text ++ rest).head? ≠ some '^' := by
  cases said : c.sign with
  | bare =>
    obtain ⟨d, more, shape, first⟩ := c.operand_eq_cons
    rw [text, said, c.close said, shape]
    rintro ⟨⟩
    obtain digit | mark := first
    · cases digit
    · cases mark
  | caret => exact absurd said other
  | _ =>
    rw [text, said]
    rintro ⟨⟩

namespace Conjunction

theorem Writes.head?_ne {q : Conjunction} {text : List Char} (writes : q.Writes text)
    (other : q.first.sign ≠ .caret) : text.head? ≠ some '^' := by
  obtain ⟨rest, _, rfl⟩ := writes
  exact Comparison.head?_text_ne other rest

theorem Writes.normalizedChars_eq {q : Conjunction} {text : List Char} (writes : q.Writes text)
    (other : q.first.sign ≠ .caret) : normalizedChars text = text := by
  have trim := strip_of_trim writes.trim
  rw [normalizedChars, trim, without_of_head? '^' rfl (writes.head?_ne other), trim]

/-- **A caret at the start is lost.** -/
theorem Writes.faced {q : Conjunction} {text : List Char} (writes : q.Writes text) :
    q.faced.Writes (normalizedChars text) := by
  have trim := strip_of_trim writes.trim
  obtain ⟨rest, behind, shape⟩ := writes
  by_cases caret : q.first.sign = .caret
  · have faced : q.faced.Writes (q.first.operand ++ rest) :=
      ⟨rest, behind, by rw [← Comparison.text_faced_of_caret caret]; rfl⟩
    have signed : text = '^' :: (q.first.gap ++ (q.first.operand ++ rest)) := by
      rw [shape, Comparison.text, caret]
      simp [Sign.text]
    have padded := strip_padded q.first.blank blank_nil faced.trim
    rw [List.append_nil] at padded
    rwa [normalizedChars, trim, signed, without_cons rfl, padded]
  · have same : q.faced = q := by
      rw [Conjunction.faced, Comparison.faced, if_neg caret]
    have writes : q.Writes text := ⟨rest, behind, shape⟩
    rwa [same, writes.normalizedChars_eq caret]

/-- The key of a conjunction is the conjunction without a caret at its start. -/
theorem IsRange.faced {q : Conjunction} {spec : String} (range : q.IsRange spec) :
    q.faced.Writes (Range.normalized spec).toList := by
  rw [Range.normalized, String.toList_ofList, ← normalizedChars_strip]
  exact range.strip.faced

end Conjunction

/-! ## The clauses of a conjunction -/

theorem joinSigns_gap {gap : List Char} (blank : Blank gap) (rest : List Char) :
    joinSigns true (gap ++ rest) = joinSigns true rest := by
  induction gap with
  | nil => rfl
  | cons c gap ih =>
    rw [← ih fun d among => blank d (List.mem_cons_of_mem c among), List.cons_append, joinSigns,
      blank c List.mem_cons_self]
    rfl

theorem isSign_of_isBlank {ch : Char} (blank : isBlank ch = true) : isSign ch = false := by
  rw [Bool.eq_false_iff]
  intro sign
  simp only [isSign, Bool.or_eq_true, beq_iff_eq] at sign
  obtain (((rfl | rfl) | rfl) | rfl) | rfl := sign <;> cases blank

theorem joinSigns_blank {gap : List Char} (blank : Blank gap) (rest : List Char) :
    joinSigns false (gap ++ rest) = gap ++ joinSigns false rest := by
  induction gap with
  | nil => rfl
  | cons c gap ih =>
    rw [List.cons_append, joinSigns, isSign_of_isBlank (blank c List.mem_cons_self),
      ih fun d among => blank d (List.mem_cons_of_mem c among)]
    rfl

theorem joinSigns_plain {cs : List Char} (plain : ∀ ch ∈ cs, Comparison.IsPlain ch)
    (nonempty : cs ≠ []) (rest : List Char) (sign : Bool) :
    joinSigns sign (cs ++ rest) = cs ++ joinSigns false rest := by
  induction cs generalizing sign with
  | nil => exact absurd rfl nonempty
  | cons c cs ih =>
    have own := plain c List.mem_cons_self
    rw [List.cons_append, joinSigns, Comparison.isBlank_of_isPlain own,
      Comparison.isSign_of_isPlain own, Bool.and_false, if_neg Bool.false_ne_true]
    cases cs with
    | nil => rfl
    | cons d cs =>
      rw [ih (fun e among => plain e (List.mem_cons_of_mem c among)) nofun]
      rfl

/-- White space after signs is left out. -/
theorem joinSigns_text (c : Comparison) (rest : List Char) :
    joinSigns false (c.text ++ rest) = c.token ++ joinSigns false rest := by
  obtain ⟨d, more, shape, _⟩ := c.operand_eq_cons
  have nonempty : c.operand ≠ [] := by
    rw [shape]
    exact nofun
  have operand := joinSigns_plain (fun _ => Comparison.isPlain_of_mem_operand) nonempty rest
  have spaced : joinSigns true (c.gap ++ (c.operand ++ rest)) =
      c.operand ++ joinSigns false rest := by
    rw [joinSigns_gap c.blank, operand]
  rw [Comparison.text, Comparison.token]
  cases said : c.sign with
  | bare =>
    rw [c.close said]
    exact operand false
  | _ =>
    rw [List.append_assoc, List.append_assoc, List.append_assoc, ← spaced]
    rfl

theorem token_solid (c : Comparison) : c.token ≠ [] ∧ ∀ ch ∈ c.token, isBlank ch = false := by
  obtain ⟨d, more, shape, _⟩ := c.operand_eq_cons
  constructor
  · rw [Comparison.token, shape]
    simp
  · intro ch among
    rw [Comparison.token] at among
    rcases List.mem_append.mp among with sign | plain
    · have solid : c.sign.text.all (fun ch => !isBlank ch) = true := by cases c.sign <;> decide
      simpa using List.all_eq_true.mp solid ch sign
    · exact Comparison.isBlank_of_isPlain (Comparison.isPlain_of_mem_operand plain)

/-- **The words of a conjunction are its comparisons**, by induction on those behind the first. -/
theorem Behind.words {cs : List Comparison} {rest : List Char} (behind : Behind cs rest)
    (c : Comparison) : words (joinSigns false (c.text ++ rest)) = (c :: cs).map (·.token) := by
  induction behind generalizing c with
  | none =>
    obtain ⟨nonempty, solid⟩ := token_solid c
    rw [joinSigns_text, words_append nonempty solid]
    · rfl
    · rintro _ ⟨⟩
  | @more gap rest next cs apart blank behind ih =>
    obtain ⟨nonempty, solid⟩ := token_solid c
    rw [joinSigns_text, joinSigns_blank blank, words_append nonempty solid, words_padded blank, ih]
    · rfl
    · obtain ⟨b, gap, rfl⟩ := List.exists_cons_of_ne_nil apart
      rintro _ ⟨⟩
      exact blank b List.mem_cons_self

theorem splitOn_clauseChars (c : Comparison) : c.clauseChars.splitOn ',' = [c.clauseChars] := by
  apply List.splitOn_eq_singleton
  intro among
  rcases List.mem_append.mp among with sign | written
  · revert sign
    cases c.sign <;> decide
  · rcases Comparison.isPlain_of_mem_written written with digit | mark | mark
    · cases digit
    · cases mark
    · cases mark

theorem mapM_parse? (cs : List Comparison) :
    (cs.map (·.clauseChars)).mapM Clause.parse? = some (cs.map (·.clause)) := by
  induction cs with
  | nil => rfl
  | cons c cs ih =>
    rw [List.map_cons, List.mapM_cons, Comparison.parse?_clauseChars, ih]
    rfl

/-- **A conjunction has one clause for each comparison.** -/
theorem clauses?_conjunction {q : Conjunction} {spec : String} (range : q.IsRange spec) :
    clauses? spec = some (q.all.map (·.clause)) := by
  obtain ⟨rest, behind, shape⟩ := range.strip
  have texts : ((q.all.map (·.token)).flatMap fun t => (clauseText t).splitOn ',').map strip =
      q.all.map (·.clauseChars) := by
    simp only [List.flatMap_map, Comparison.clauseText_token, splitOn_clauseChars,
      ← List.map_eq_flatMap, List.map_map]
    exact List.map_congr_left fun c _ => c.strip_clauseChars
  have kept : (q.all.map (·.clauseChars)).filter (fun t => !t.isEmpty) =
      q.all.map (·.clauseChars) := by
    rw [List.filter_eq_self]
    intro t among
    obtain ⟨c, _, rfl⟩ := List.mem_map.mp among
    obtain ⟨d, more, written, _⟩ := c.written_eq_cons
    simp [Comparison.clauseChars, written]
  rw [clauses?, shape, behind.words]
  show ((((q.all.map (·.token)).flatMap fun t => (clauseText t).splitOn ',').map strip).filter
    fun t => !t.isEmpty).mapM Clause.parse? = _
  rw [texts, kept, mapM_parse?]

/-! ## What ranges let through -/

/-- Whether a range lets a version through. A range that is none lets nothing through. -/
def lets (spec : String) (v : Version) : Bool :=
  match pinned? spec with
  | some w => w.same v
  | none => ((clauses? spec).map fun clauses => Clause.acceptAll clauses v).getD false

/-- Three numbers with points between them are those of a comparison. -/
theorem exists_of_isTriple {cs : List Char} (triple : isTriple cs = true) :
    ∃ c : Comparison, c.numbers = cs ∧ c.version.IsFinal := by
  have whole : ['.'].intercalate (cs.splitOn '.') = cs := List.intercalate_splitOn '.'
  simp only [isTriple, Bool.and_eq_true, beq_iff_eq, List.all_eq_true] at triple
  obtain ⟨three, numeral⟩ := triple
  obtain ⟨x, y, z, parts⟩ := List.length_eq_three.mp three
  rw [parts] at whole numeral
  have number (p : List Char) (among : p ∈ [x, y, z]) : ∃ n : Numeral, n.digits = p := by
    obtain ⟨some, digits⟩ := numeral p among
    exact ⟨⟨p, by simpa using some, digits⟩, rfl⟩
  obtain ⟨major, rfl⟩ := number x (by simp)
  obtain ⟨minor, rfl⟩ := number y (by simp)
  obtain ⟨patch, rfl⟩ := number z (by simp)
  refine ⟨⟨.bare, [], false, major, minor, some patch, nofun, fun _ => rfl⟩, ?_, _, _, _, rfl⟩
  rw [← whole]
  simp [Comparison.numbers, List.intercalate]

/-- A range that names one version names a final release. -/
theorem isFinal_of_pinned? {spec : String} {v : Version} (pinned : pinned? spec = some v) :
    v.IsFinal := by
  rw [pinned?] at pinned
  split at pinned
  · rename_i triple
    obtain ⟨c, written, final⟩ := exists_of_isTriple triple
    rw [← written, Comparison.ofChars?_numbers] at pinned
    cases pinned
    exact final
  · cases pinned

/-- Only the word in front is lost. -/
theorem mem_without (front : String) {cs : List Char} {ch : Char} (among : ch ∈ cs) :
    ch ∈ front.toList ∨ ch ∈ without front cs := by
  rw [without]
  cases found : front.toList.isPrefixOf? cs with
  | none => exact .inr among
  | some rest =>
    rw [← append_of_isPrefixOf? found] at among
    exact List.mem_append.mp among

/-- A range that names one version is of digits and points, but for a sign or a mark in front. -/
theorem plain_of_isTriple {spec : String} (triple : isTriple (bare spec) = true) :
    ∀ ch ∈ normalizedChars spec.toList, ch = '=' ∨ Comparison.IsPlain ch := by
  intro ch among
  rcases mem_without "=" among with sign | among
  · exact .inl (List.mem_singleton.mp sign)
  · rcases mem_without "v" among with mark | among
    · exact .inr (.inr (.inr (List.mem_singleton.mp mark)))
    · obtain ⟨c, written, _⟩ := exists_of_isTriple triple
      have whole : bare spec = without "v" (without "=" (normalizedChars spec.toList)) := rfl
      rw [← whole, ← written] at among
      exact .inr (Comparison.isPlain_of_mem_numbers among)

theorem Comparison.without_mark_operand (c : Comparison) : without "v" c.operand = c.numbers := by
  obtain ⟨d, more, numbers, digit⟩ := c.numbers_eq_cons
  rw [Comparison.operand]
  split
  · exact without_cons rfl _
  · refine without_of_head? 'v' rfl ?_
    rw [numbers]
    rintro ⟨⟩
    cases digit

theorem Comparison.without_sign_operand (c : Comparison) : without "=" c.operand = c.operand := by
  obtain ⟨d, more, operand, first⟩ := c.operand_eq_cons
  refine without_of_head? '=' rfl ?_
  rw [operand]
  rintro ⟨⟩
  obtain digit | mark := first
  · cases digit
  · cases mark

/-- A conjunction that names one version is one equality. -/
theorem Conjunction.Writes.of_isTriple {q : Conjunction} {spec : String}
    (writes : q.Writes spec.toList) (other : q.first.sign ≠ .caret)
    (triple : isTriple (bare spec) = true) :
    q.others = [] ∧ (q.first.sign = .bare ∨ q.first.sign = .equal) ∧
      bare spec = q.first.numbers := by
  have whole : bare spec = without "v" (without "=" spec.toList) := by
    rw [bare, writes.normalizedChars_eq other]
  have plain := plain_of_isTriple triple
  rw [writes.normalizedChars_eq other] at plain
  obtain ⟨rest, behind, shape⟩ := writes
  have part : ∀ ch, ch ∈ q.first.sign.text ∨ ch ∈ q.first.gap ∨ ch ∈ rest →
      ch = '=' ∨ Comparison.IsPlain ch := by
    intro ch among
    refine plain ch ?_
    rw [shape, Comparison.text]
    rcases among with sign | gap | behind
    · simp [sign]
    · simp [gap]
    · simp [behind]
  have solid : ∀ ch, ch = '=' ∨ Comparison.IsPlain ch → isBlank ch = false := by
    rintro ch (rfl | plain)
    · decide
    · exact Comparison.isBlank_of_isPlain plain
  obtain ⟨alone, rfl⟩ := behind.eq_nil fun ch among => solid ch (part ch (.inr (.inr among)))
  have close : q.first.gap = [] := by
    rw [List.eq_nil_iff_forall_not_mem]
    intro b among
    have never := solid b (part b (.inr (.inl among)))
    rw [q.first.blank b among] at never
    cases never
  have whole' : spec.toList = q.first.sign.text ++ q.first.operand := by
    rw [shape, Comparison.text, close, List.append_nil, List.append_nil]
  refine ⟨alone, ?_⟩
  rw [whole, whole']
  cases said : q.first.sign with
  | bare => exact ⟨.inl rfl, by
      rw [Sign.text, List.nil_append, q.first.without_sign_operand, q.first.without_mark_operand]⟩
  | equal => exact ⟨.inr rfl, by
      rw [Sign.text, List.cons_append, List.nil_append, without_cons rfl,
        q.first.without_mark_operand]⟩
  | _ =>
    have sign := part
    rw [said] at sign
    refine absurd (sign _ (.inl List.mem_cons_self)) ?_
    rintro (sign | digit | mark | mark)
    · cases sign
    · cases digit
    · cases mark
    · cases mark

/-- A range that names no version lets through the releases that all its comparisons take. -/
theorem Conjunction.IsRange.lets_iff {q : Conjunction} {spec : String} (range : q.IsRange spec)
    (unpinned : pinned? spec = none) {v : Version} (release : v.IsRelease) :
    lets spec v = true ↔ q.Takes v.triple := by
  unfold lets
  rw [unpinned]
  dsimp only
  rw [clauses?_conjunction range, Option.map_some, Option.getD_some, Clause.acceptAll,
    List.all_map, List.all_eq_true]
  apply forall₂_congr
  intro c _
  rw [Function.comp_apply]
  exact c.fits_clause release

/-- **A conjunction lets through the releases that all its comparisons take.** -/
theorem lets_iff {q : Conjunction} {spec : String} (writes : q.Writes spec.toList)
    (other : q.first.sign ≠ .caret) {v : Version} (release : v.IsRelease) :
    lets spec v = true ↔ q.Takes v.triple := by
  cases triple : isTriple (bare spec) with
  | true =>
    obtain ⟨alone, signs, numbers⟩ := writes.of_isTriple other triple
    have takes : q.Takes v.triple ↔ v.triple = q.first.first := by
      rw [Conjunction.Takes, Conjunction.all, alone]
      obtain said | said := signs <;> simp [Comparison.Takes, said]
    unfold lets
    rw [pinned?, if_pos triple, numbers, Comparison.ofChars?_numbers, takes,
      ← Comparison.triple_version]
    exact (q.first.isRelease_version.same_iff release).trans eq_comm
  | false =>
    refine writes.isRange.lets_iff ?_ release
    rw [pinned?, triple]
    rfl

end SolidityRepl.Range
