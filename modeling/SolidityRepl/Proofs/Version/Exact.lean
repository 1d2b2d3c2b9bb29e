import SolidityRepl.Proofs.Version.Specifier

/-!
# Ranges that name one version

Three numbers name the version that they are, with white space around them and with a caret, an
equals sign and a mark in front, in this order, any of which may be missing.
-/

namespace SolidityRepl.Range

open Text Version

def dotted (x y z : Numeral) : List Char := x.digits ++ '.' :: (y.digits ++ '.' :: z.digits)

def release (x y z : Numeral) : Version := { release := [x.value, y.value, z.value] }

def Maybe (sign : Char) (cs : List Char) : Prop := cs = [] ∨ cs = [sign]

def Names (spec : String) (x y z : Numeral) : Prop :=
  ∃ lead caret gap equal mark trail, Blank lead ∧ Blank gap ∧ Blank trail ∧
    Maybe '^' caret ∧ Maybe '=' equal ∧ Maybe 'v' mark ∧
    spec.toList = lead ++ (caret ++ (gap ++ (equal ++ (mark ++ dotted x y z) ++ trail)))

/-! ## Signs in front -/

/-- What a sign in front is taken from is the rest with the sign, or without. -/
theorem exists_without (front : String) {sign : Char} (alone : front.toList = [sign])
    (cs : List Char) : ∃ pre, Maybe sign pre ∧ cs = pre ++ without front cs := by
  by_cases first : cs.head? = some sign
  · cases cs with
    | nil => cases first
    | cons c rest =>
      cases first
      exact ⟨[sign], .inr rfl, by rw [without_cons alone]; rfl⟩
  · exact ⟨[], .inl rfl, by rw [without_of_head? sign alone first]; rfl⟩

/-- A sign that may be missing is taken away. -/
theorem without_maybe {front : String} {sign : Char} (alone : front.toList = [sign])
    {pre cs : List Char} (may : Maybe sign pre) (other : cs.head? ≠ some sign) :
    without front (pre ++ cs) = cs := by
  obtain rfl | rfl := may
  · exact without_of_head? sign alone other
  · exact without_cons alone cs

/-! ## Three numbers -/

def exactly (x y z : Numeral) : Comparison :=
  ⟨.bare, [], false, x, y, some z, blank_nil, close_nil .bare⟩

theorem numbers_exactly (x y z : Numeral) : (exactly x y z).numbers = dotted x y z := by
  rw [Comparison.numbers_eq]
  rfl

theorem isTriple_dotted (x y z : Numeral) : isTriple (dotted x y z) = true := by
  have pointless (n : Numeral) : '.' ∉ n.digits := fun among => by cases n.decimal '.' among
  have parts : (dotted x y z).splitOn '.' = [x.digits, y.digits, z.digits] := by
    rw [dotted, List.splitOn_append_cons_self_of_not_mem (pointless x),
      List.splitOn_append_cons_self_of_not_mem (pointless y),
      List.splitOn_eq_singleton (pointless z)]
  have numeral (n : Numeral) : (!n.digits.isEmpty && n.digits.all Char.isDigit) = true := by
    rw [Bool.and_eq_true, List.all_eq_true]
    exact ⟨by simpa using n.ne_nil, n.decimal⟩
  simp only [isTriple, parts, List.all_cons, List.all_nil, numeral, List.length_cons,
    List.length_nil, Bool.and_true, beq_self_eq_true]

theorem exists_dotted {cs : List Char} (triple : isTriple cs = true) :
    ∃ x y z, cs = dotted x y z := by
  obtain ⟨c, written, x, y, z, final⟩ := exists_of_isTriple triple
  have three := congrArg (fun v : Version => v.release.length) final
  cases known : c.patch with
  | none => simp [Comparison.version, known] at three
  | some patch =>
    refine ⟨c.major, c.minor, patch, ?_⟩
    rw [← written, Comparison.numbers_eq, Comparison.tail, known]
    rfl

theorem dotted_eq_cons (x y z : Numeral) :
    ∃ d rest, dotted x y z = d :: rest ∧ d.isDigit = true := by
  obtain ⟨d, rest, shape, digit⟩ := (exactly x y z).numbers_eq_cons
  exact ⟨d, rest, by rw [← numbers_exactly, shape], digit⟩

/-- Digits are no signs. -/
theorem head?_dotted_ne (x y z : Numeral) {sign : Char} (other : sign.isDigit = false) :
    (dotted x y z).head? ≠ some sign := by
  obtain ⟨d, rest, shape, digit⟩ := dotted_eq_cons x y z
  rw [shape]
  rintro ⟨⟩
  rw [digit] at other
  cases other

/-- With signs in front there is no white space at the ends. -/
theorem trim_dotted (pre : List Char) (x y z : Numeral)
    (solid : ∀ c, pre.head? = some c → isBlank c = false) : Trim (pre ++ dotted x y z) where
  first c first := by
    cases pre with
    | nil =>
      obtain ⟨d, rest, shape, digit⟩ := dotted_eq_cons x y z
      rw [List.nil_append, shape] at first
      cases first
      exact Comparison.isBlank_of_isPlain (.inl digit)
    | cons p pre =>
      cases first
      exact solid _ rfl
  last c last := by
    obtain ⟨front, d, shape, digit⟩ := (exactly x y z).numbers_eq_concat
    rw [← numbers_exactly, shape, ← List.append_assoc, List.getLast?_concat] at last
    cases last
    exact Comparison.isBlank_of_isPlain (.inl digit)

/-! ## Ranges that name one version -/

/-- **What is left of a range that names three numbers are these.** -/
theorem bare_of_names {spec : String} {x y z : Numeral} (names : Names spec x y z) :
    bare spec = dotted x y z := by
  obtain ⟨lead, caret, gap, equal, mark, trail, before, between, after, may, may', may'', whole⟩ :=
    names
  have unmarked : (dotted x y z).head? ≠ some 'v' := head?_dotted_ne x y z (by decide)
  have unequal : (mark ++ dotted x y z).head? ≠ some '=' := by
    obtain rfl | rfl := may''
    · exact head?_dotted_ne x y z (by decide)
    · simp
  have facing : (equal ++ (mark ++ dotted x y z)).head? ≠ some '^' := by
    obtain rfl | rfl := may'
    · obtain rfl | rfl := may''
      · exact head?_dotted_ne x y z (by decide)
      · simp
    · simp
  have trim : Trim (equal ++ (mark ++ dotted x y z)) := by
    rw [← List.append_assoc]
    refine trim_dotted _ x y z ?_
    obtain rfl | rfl := may' <;> obtain rfl | rfl := may'' <;> rintro _ ⟨⟩ <;> decide
  have key : normalizedChars spec.toList = equal ++ (mark ++ dotted x y z) := by
    obtain rfl | rfl := may
    · have padded := strip_padded (before.append between) after trim
      rw [List.append_assoc] at padded
      rw [normalizedChars, whole, List.nil_append, padded, without_of_head? '^' rfl facing,
        strip_of_trim trim]
    · have trim' : Trim (['^'] ++ (gap ++ (equal ++ (mark ++ dotted x y z)))) := by
        have all := trim_dotted ('^' :: (gap ++ (equal ++ mark))) x y z (by
          rintro _ ⟨⟩
          decide)
        simpa only [List.cons_append, List.append_assoc, List.nil_append] using all
      have padded := strip_padded before after trim'
      have inner := strip_padded between blank_nil trim
      rw [List.append_nil] at inner
      rw [normalizedChars, whole]
      simp only [List.append_assoc] at padded ⊢
      rw [padded, List.singleton_append, without_cons rfl, inner]
  rw [bare, key, without_maybe rfl may' unequal, without_maybe rfl may'' unmarked]

/-- A range of which three numbers are left names these. -/
theorem names_of_bare {spec : String} {x y z : Numeral} (left : bare spec = dotted x y z) :
    Names spec x y z := by
  obtain ⟨lead, trail, before, after, whole⟩ := exists_strip spec.toList
  obtain ⟨caret, may, signed⟩ := exists_without "^" rfl (strip spec.toList)
  obtain ⟨gap, trail', between, after', inner⟩ := exists_strip (without "^" (strip spec.toList))
  obtain ⟨equal, may', equals⟩ := exists_without "=" rfl (normalizedChars spec.toList)
  obtain ⟨mark, may'', marks⟩ :=
    exists_without "v" rfl (without "=" (normalizedChars spec.toList))
  have last : without "v" (without "=" (normalizedChars spec.toList)) = dotted x y z := left
  refine ⟨lead, caret, gap, equal, mark, trail' ++ trail, before, between, after'.append after, may,
    may', may'', ?_⟩
  have key : strip (without "^" (strip spec.toList)) = equal ++ (mark ++ dotted x y z) := by
    rw [← last, ← marks, ← equals]
    rfl
  rw [key] at inner
  rw [whole, signed, inner]
  simp only [List.append_assoc]

/-- **Three numbers and nothing else name one version.** -/
theorem pinned?_eq_some {spec : String} {v : Version} :
    pinned? spec = some v ↔ ∃ x y z, Names spec x y z ∧ v = release x y z := by
  constructor
  · intro pinned
    rw [pinned?] at pinned
    split at pinned
    · rename_i triple
      obtain ⟨x, y, z, left⟩ := exists_dotted triple
      rw [left, ← numbers_exactly, Comparison.ofChars?_numbers] at pinned
      cases pinned
      exact ⟨x, y, z, names_of_bare left, rfl⟩
    · cases pinned
  · rintro ⟨x, y, z, names, rfl⟩
    rw [pinned?, bare_of_names names, if_pos (isTriple_dotted x y z), ← numbers_exactly,
      Comparison.ofChars?_numbers]
    rfl

theorem pinned?_eq_none {spec : String} :
    pinned? spec = none ↔ ∀ x y z, ¬Names spec x y z := by
  rw [Option.eq_none_iff_forall_ne_some]
  constructor
  · intro unpinned x y z names
    exact unpinned _ (pinned?_eq_some.mpr ⟨x, y, z, names, rfl⟩)
  · rintro unnamed v pinned
    obtain ⟨x, y, z, names, -⟩ := pinned?_eq_some.mp pinned
    exact unnamed x y z names

/-- A version that is named cannot be read if one of its numbers has too many digits. -/
theorem isOverlong_of_names {spec : String} {x y z : Numeral} (names : Names spec x y z) :
    isOverlong spec = true ↔ ∃ n ∈ [x, y, z], mostDigits < n.digits.length := by
  have pinned := pinned?_eq_some.mpr ⟨x, y, z, names, rfl⟩
  unfold isOverlong
  rw [pinned, bare_of_names names, ← numbers_exactly]
  exact (exactly x y z).hasOverlong_numbers

/-- Any other range cannot be read if its clauses cannot. -/
theorem isOverlong_of_unpinned {spec : String} (unpinned : pinned? spec = none) :
    isOverlong spec = true ↔ specifier spec = .error .overlong := by
  unfold isOverlong
  rw [unpinned, specifier]
  cases clauses? spec with
  | none => simp
  | some clauses =>
    simp only [Option.getD_some]
    cases clauses.any Clause.isOverlong <;> simp

end SolidityRepl.Range
