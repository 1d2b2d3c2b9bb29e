import SolidityRepl.Proofs.Fragment.Keyword
import SolidityRepl.Proofs.Program
import SolidityRepl.Proofs.Text.Split

/-!
# Declarations without a value

A declaration is a type, any number of array suffixes, a data location or none, and a name. It is
read as one, and so has no value, with one exception: the elementary type of two words is taken for
a type and a name, behind which nothing may follow.

* `Declared`: declarations as they are written;
* `Sound.typed`, `Sound.untyped`: those that are read as a type and a name, and those that are not;
* `ofText_declared`: all of them belong to the entry function, and which of them have no value.
-/

namespace SolidityRepl

namespace Fragment

open Text

/-! ## How declarations are written -/

/-- A letter, `_` or `$`, and letters, digits, `_` and `$` behind it. -/
structure IsIdentifier (name : List Char) : Prop where
  starts : name.head?.any isNameStart = true
  named : ∀ c ∈ name, isNameChar c = true

structure IsGap (gap : List Char) : Prop where
  ne_nil : gap ≠ []
  blank : Blank gap

/-- What stands in front of the array suffixes of a type: names with points between them, such as an
elementary type of one word, or the elementary type of two words. -/
inductive Base where
  | path (first : List Char) (more : List (List Char))
  | payable (gap : List Char)
  deriving DecidableEq, Repr

def Base.text : Base → List Char
  | path first more => first ++ more.flatMap ('.' :: ·)
  | payable gap => "address".toList ++ (gap ++ "payable".toList)

/-- A base with names in it that are identifiers, and with white space between words. -/
inductive Base.Sound : Base → Prop
  | path {first : List Char} {more : List (List Char)} (named : IsIdentifier first)
      (further : ∀ name ∈ more, IsIdentifier name) : Sound (.path first more)
  | payable {gap : List Char} (apart : IsGap gap) : Sound (.payable gap)

/-- An array suffix: what stands between its brackets, and the white space in front, if any. -/
structure Suffix where
  gap : List Char
  size : List Char
  deriving DecidableEq, Repr

def Suffix.text (suffix : Suffix) : List Char := suffix.gap ++ '[' :: (suffix.size ++ [']'])

structure Suffix.Sound (suffix : Suffix) : Prop where
  blank : Blank suffix.gap
  open' : ']' ∉ suffix.size

/-- A declaration. The location comes with the white space in front of it, as the name does. -/
structure Declared where
  base : Base
  suffixes : List Suffix
  location : Option (List Char × List Char)
  gap : List Char
  name : List Char
  deriving DecidableEq, Repr

namespace Declared

/-- The data location and the name as they are written. -/
def trail (d : Declared) : List Char :=
  (match d.location with
    | some (gap, word) => gap ++ word
    | none => []) ++ (d.gap ++ d.name)

def behind (d : Declared) : List Char := d.suffixes.flatMap Suffix.text ++ d.trail

def text (d : Declared) : List Char := d.base.text ++ d.behind

structure Sound (d : Declared) : Prop where
  base : d.base.Sound
  suffixes : ∀ suffix ∈ d.suffixes, suffix.Sound
  location : ∀ place ∈ d.location, IsGap place.1 ∧ place.2 ∈ locations
  gap : IsGap d.gap
  name : IsIdentifier d.name

end Declared

/-! ## Reading words -/

variable {gap name rest : List Char} {fuel : Nat} {d : Declared}

instance (name : List Char) : Decidable (IsIdentifier name) :=
  decidable_of_iff (name.head?.any isNameStart = true ∧ name.all isNameChar = true)
    ⟨fun both => ⟨both.1, List.all_eq_true.mp both.2⟩,
      fun isIdentifier => ⟨isIdentifier.starts, List.all_eq_true.mpr isIdentifier.named⟩⟩

theorem isIdentifier_location : ∀ word ∈ locations, IsIdentifier word := by decide

theorem IsIdentifier.eq_cons (isIdentifier : IsIdentifier name) :
    ∃ c more, name = c :: more ∧ isNameStart c = true ∧ ∀ d ∈ more, isNameChar d = true := by
  cases name with
  | nil => cases isIdentifier.starts
  | cons c more =>
    have starts : isNameStart c = true := by simpa using isIdentifier.starts
    exact ⟨c, more, rfl, starts, fun d mem => isIdentifier.named d (List.mem_cons_of_mem _ mem)⟩

/-- A name is read up to what is no part of it. -/
theorem IsIdentifier.name? (isIdentifier : IsIdentifier name)
    (ends : ∀ c ∈ rest.head?, isNameChar c = false) :
    Fragment.name? (name ++ rest) = some (name, rest) := by
  obtain ⟨c, more, rfl, starts, named⟩ := isIdentifier.eq_cons
  rw [List.cons_append, Fragment.name?, if_pos starts, takeWhile_until named ends,
    dropWhile_until named ends]

theorem IsIdentifier.shown (isIdentifier : IsIdentifier name) (rest : List Char) :
    ∀ c ∈ (name ++ rest).head?, isBlank c = false := by
  obtain ⟨c, more, rfl, starts, -⟩ := isIdentifier.eq_cons
  simpa using isBlank_of_isNameChar (isNameChar_of_isNameStart starts)

theorem IsGap.eq_cons (apart : IsGap gap) :
    ∃ c more, gap = c :: more ∧ isBlank c = true ∧ Blank more := by
  obtain ⟨c, more, rfl⟩ := List.exists_cons_of_ne_nil apart.ne_nil
  exact ⟨c, more, rfl, apart.blank c List.mem_cons_self,
    fun d mem => apart.blank d (List.mem_cons_of_mem _ mem)⟩

theorem IsGap.blankRest? (apart : IsGap gap) (shown : ∀ c ∈ rest.head?, isBlank c = false) :
    Text.blankRest? (gap ++ rest) = some rest := by
  obtain ⟨c, more, rfl, blank, behind⟩ := apart.eq_cons
  rw [List.cons_append, Text.blankRest?, if_pos blank, stripStart_append behind,
    stripStart_shown shown]

/-- A word ends in front of white space. -/
theorem IsGap.ends (apart : IsGap gap) (rest : List Char) :
    ∀ c ∈ (gap ++ rest).head?, isNameChar c = false := by
  obtain ⟨c, more, rfl, blank, -⟩ := apart.eq_cons
  simpa using isNameChar_of_isBlank blank

theorem not_named_semicolon : ∀ c ∈ [';'].head?, isNameChar c = false := by
  rintro c ⟨⟩
  decide

theorem endsWithName_name (apart : IsGap gap) (isIdentifier : IsIdentifier name) :
    endsWithName (gap ++ (name ++ [';'])) = true := by
  have read : Fragment.name? (name ++ [';']) = some (name, [';']) :=
    isIdentifier.name? not_named_semicolon
  rw [endsWithName, apart.blankRest? (isIdentifier.shown _)]
  dsimp only
  rw [read]
  rfl

theorem declaresName_name (apart : IsGap gap) (isIdentifier : IsIdentifier name) :
    declaresName (gap ++ (name ++ [';'])) = true := by
  have read : Fragment.name? (name ++ [';']) = some (name, [';']) :=
    isIdentifier.name? not_named_semicolon
  rw [declaresName, apart.blankRest? (isIdentifier.shown _)]
  dsimp only
  rw [read]
  rfl

/-- **What follows a type is a name, with a data location in front or none.** -/
theorem Declared.Sound.declaresName (sound : d.Sound) :
    Fragment.declaresName (d.trail ++ [';']) = true := by
  rw [trail, List.append_assoc, List.append_assoc]
  cases place : d.location with
  | none => exact declaresName_name sound.gap sound.name
  | some located =>
    obtain ⟨gap, word⟩ := located
    obtain ⟨apart, known⟩ := sound.location _ place
    have isIdentifier := isIdentifier_location word known
    have listed : locations.contains word = true := by simpa using known
    have read : Fragment.name? (word ++ (d.gap ++ (d.name ++ [';']))) =
        some (word, d.gap ++ (d.name ++ [';'])) := isIdentifier.name? (sound.gap.ends _)
    dsimp only
    rw [List.append_assoc, Fragment.declaresName, apart.blankRest? (isIdentifier.shown _)]
    dsimp only
    rw [read]
    simp only [listed, endsWithName_name sound.gap sound.name, Bool.and_self, Bool.or_true]

/-! ## Reading array suffixes -/

theorem afterBracket?_append {size : List Char} (open' : ']' ∉ size) (rest : List Char) :
    afterBracket? (size ++ ']' :: rest) = some rest := by
  induction size with
  | nil => rfl
  | cons c size ih =>
    have other : (c == ']') = false :=
      beq_false_of_ne fun same => open' (same ▸ List.mem_cons_self)
    rw [List.cons_append, afterBracket?, other, ih fun mem => open' (List.mem_cons_of_mem _ mem)]
    rfl

theorem Suffix.Sound.suffixRest? {suffix : Suffix} (sound : suffix.Sound) (rest : List Char) :
    Fragment.suffixRest? (suffix.text ++ rest) = some rest := by
  have bracket (cs : List Char) : stripStart ('[' :: cs) = '[' :: cs :=
    stripStart_shown (by simp [isBlank])
  rw [Suffix.text, List.append_assoc, List.cons_append, Fragment.suffixRest?,
    stripStart_append sound.blank, bracket, List.append_assoc]
  exact afterBracket?_append sound.open' rest

theorem suffixesRest_of_none {cs : List Char} (none : suffixRest? cs = none) (fuel : Nat) :
    suffixesRest fuel cs = cs := by
  cases fuel with
  | zero => rfl
  | succ fuel => rw [suffixesRest, none]

/-- All suffixes are read, by induction on them. -/
theorem suffixesRest_append {suffixes : List Suffix} (sound : ∀ suffix ∈ suffixes, suffix.Sound)
    (none : suffixRest? rest = none) (enough : suffixes.length ≤ fuel) :
    suffixesRest fuel (suffixes.flatMap Suffix.text ++ rest) = rest := by
  induction suffixes generalizing fuel with
  | nil => exact suffixesRest_of_none none fuel
  | cons suffix more ih =>
    cases fuel with
    | zero => cases enough
    | succ fuel =>
      have first := (sound suffix List.mem_cons_self).suffixRest? (more.flatMap Suffix.text ++ rest)
      rw [List.flatMap_cons, List.append_assoc, suffixesRest, first]
      apply ih
      · intro suffix mem
        exact sound suffix (List.mem_cons_of_mem _ mem)
      · simpa using enough

theorem length_suffixes_le (suffixes : List Suffix) :
    suffixes.length ≤ (suffixes.flatMap Suffix.text).length := by
  induction suffixes with
  | nil => exact Nat.le_refl _
  | cons suffix more ih =>
    simp only [List.flatMap_cons, List.length_append, List.length_cons, Suffix.text]
    omega

namespace Declared

/-- Behind the white space after the type there is a word. -/
theorem Sound.stripStart_trail (sound : d.Sound) (rest : List Char) :
    ∃ c more, stripStart (d.trail ++ rest) = c :: more ∧ isNameStart c = true := by
  have word {name : List Char} (isIdentifier : IsIdentifier name) (rest : List Char) :
      ∃ c more, stripStart (name ++ rest) = c :: more ∧ isNameStart c = true := by
    rw [stripStart_shown (isIdentifier.shown rest)]
    obtain ⟨c, more, rfl, starts, -⟩ := isIdentifier.eq_cons
    exact ⟨c, more ++ rest, rfl, starts⟩
  rw [trail, List.append_assoc, List.append_assoc]
  cases place : d.location with
  | none =>
    rw [List.nil_append, stripStart_append sound.gap.blank]
    exact word sound.name rest
  | some located =>
    obtain ⟨gap, own⟩ := located
    obtain ⟨apart, known⟩ := sound.location _ place
    dsimp only
    rw [List.append_assoc, stripStart_append apart.blank]
    exact word (isIdentifier_location own known) _

theorem Sound.suffixesRest (sound : d.Sound) :
    Fragment.suffixesRest (d.behind ++ [';']).length (d.behind ++ [';']) = d.trail ++ [';'] := by
  have enough : d.suffixes.length ≤ (d.behind ++ [';']).length := by
    have few := length_suffixes_le d.suffixes
    simp only [behind, List.length_append]
    omega
  have none : suffixRest? (d.trail ++ [';']) = none := by
    obtain ⟨c, more, word, starts⟩ := sound.stripStart_trail [';']
    rw [suffixRest?, word]
    split
    · rename_i same
      cases same
      cases starts
    · rfl
  have read := suffixesRest_append sound.suffixes none enough
  rwa [← List.append_assoc] at read

/-- The first character behind the base of the type is white space or a bracket. -/
theorem Sound.behind_eq_cons (sound : d.Sound) :
    ∃ c more, d.behind = c :: more ∧ (isBlank c = true ∨ c = '[') := by
  rw [behind]
  cases suffixes : d.suffixes with
  | nil =>
    rw [List.flatMap_nil, List.nil_append, trail]
    cases place : d.location with
    | none =>
      obtain ⟨c, more, gap, blank, -⟩ := sound.gap.eq_cons
      exact ⟨c, more ++ d.name, by simp [gap], .inl blank⟩
    | some located =>
      obtain ⟨gap, word⟩ := located
      obtain ⟨c, more, rfl, blank, -⟩ := (sound.location _ place).1.eq_cons
      exact ⟨c, more ++ (word ++ (d.gap ++ d.name)), by simp, .inl blank⟩
  | cons suffix others =>
    have own : suffix.Sound := sound.suffixes suffix (suffixes ▸ List.mem_cons_self)
    rw [List.flatMap_cons, Suffix.text]
    cases gap : suffix.gap with
    | nil => exact ⟨'[', _, rfl, .inr rfl⟩
    | cons c more => exact ⟨c, _, rfl, .inl (own.blank c (gap ▸ List.mem_cons_self))⟩

/-- A declaration does not end behind its type. -/
theorem Sound.endsHere (sound : d.Sound) : Fragment.endsHere (d.behind ++ [';']) = false := by
  have goes : ∃ c more, stripStart (d.behind ++ [';']) = c :: more ∧ c ≠ ';' := by
    rw [behind, List.append_assoc]
    cases suffixes : d.suffixes with
    | nil =>
      obtain ⟨c, more, word, starts⟩ := sound.stripStart_trail [';']
      refine ⟨c, more, word, ?_⟩
      rintro rfl
      cases starts
    | cons suffix others =>
      have own : suffix.Sound := sound.suffixes suffix (suffixes ▸ List.mem_cons_self)
      refine ⟨'[', suffix.size ++ ']' :: (others.flatMap Suffix.text ++ (d.trail ++ [';'])), ?_,
        by decide⟩
      simp only [List.flatMap_cons, Suffix.text, List.append_assoc, List.cons_append,
        List.nil_append]
      rw [stripStart_append own.blank]
      exact stripStart_shown (by simp [isBlank])
  obtain ⟨c, more, word, other⟩ := goes
  rw [Fragment.endsHere, word]
  split
  · rename_i same
    cases same
  · rename_i same
    cases same
    exact absurd rfl other
  · rename_i same
    cases same
    exact absurd rfl other
  · rfl

end Declared

/-! ## Types that are read and types that are not -/

def isPathChar (c : Char) : Bool := isNameChar c || c == '.'

theorem isPathChar_of_isNameChar {c : Char} (named : isNameChar c = true) :
    isPathChar c = true := by
  rw [isPathChar, named, Bool.true_or]

theorem not_isPathChar {c : Char} (ends : isBlank c = true ∨ c = '[') : isPathChar c = false := by
  obtain blank | rfl := ends
  · have point : c ≠ '.' := by
      rintro rfl
      cases blank
    simp [isPathChar, isNameChar_of_isBlank blank, point]
  · decide

theorem isPathChar_path {first : List Char} {more : List (List Char)} (named : IsIdentifier first)
    (further : ∀ name ∈ more, IsIdentifier name) :
    ∀ c ∈ first ++ more.flatMap ('.' :: ·), isPathChar c = true := by
  intro c mem
  obtain mem | mem := List.mem_append.mp mem
  · exact isPathChar_of_isNameChar (named.named c mem)
  · obtain ⟨name, listed, mem⟩ := List.mem_flatMap.mp mem
    obtain rfl | mem := List.mem_cons.mp mem
    · decide
    · exact isPathChar_of_isNameChar ((further name listed).named c mem)

theorem head?_any_append {front : List Char} {test : Char → Bool}
    (starts : front.head?.any test = true) (rest : List Char) :
    (front ++ rest).head?.any test = true := by
  cases front with
  | nil => cases starts
  | cons c front => exact starts

/-- What a name begins with begins no amount. -/
theorem isAmount_of_isNameStart (starts : rest.head?.any isNameStart = true) :
    isAmount rest = false := by
  cases rest with
  | nil => cases starts
  | cons c rest =>
    have digit : c.isDigit = false := isDigit_of_isNameStart (by simpa using starts)
    have zero : c ≠ '0' := by
      rintro rfl
      cases digit
    have none : numberRest? (c :: rest) = none := by
      unfold numberRest?
      split
      · rename_i same
        cases same
        exact absurd rfl zero
      · rename_i same
        cases same
        rw [digit]
        rfl
      · rfl
    rw [isAmount, none]

theorem pathRest?_append {path : List Char} (starts : path.head?.any isNameStart = true)
    (dotted : ∀ c ∈ path, isPathChar c = true) (ends : ∀ c ∈ rest.head?, isPathChar c = false) :
    pathRest? (path ++ rest) = some rest := by
  cases path with
  | nil => cases starts
  | cons c path =>
    have skipped : (path ++ rest).dropWhile (fun c => isNameChar c || c == '.') = rest :=
      dropWhile_until (fun d mem => dotted d (List.mem_cons_of_mem _ mem)) ends
    rw [List.cons_append, pathRest?, if_pos (by simpa using starts), skipped]

/-- What is read of the base of a type: the whole of a dotted path, one word of two. -/
def Base.lead : Base → List Char
  | .path first more => first ++ more.flatMap ('.' :: ·)
  | .payable _ => "address".toList

/-- What is left of the base of a type. -/
def Base.unread : Base → List Char
  | .path _ _ => []
  | .payable gap => gap ++ "payable".toList

theorem Base.text_eq_append (base : Base) : base.text = base.lead ++ base.unread := by
  cases base with
  | path first more => exact (List.append_nil _).symm
  | payable gap => rfl

theorem Base.Sound.starts {base : Base} (sound : base.Sound) :
    base.lead.head?.any isNameStart = true := by
  cases sound with
  | path named further =>
    obtain ⟨c, others, rfl, starts, -⟩ := named.eq_cons
    exact starts
  | payable apart => exact (by decide : IsIdentifier "address".toList).starts

theorem Base.Sound.isPathChar {base : Base} (sound : base.Sound) :
    ∀ c ∈ base.lead, Fragment.isPathChar c = true := by
  cases sound with
  | path named further => exact isPathChar_path named further
  | payable apart =>
    have word : IsIdentifier "address".toList := by decide
    exact fun c mem => isPathChar_of_isNameChar (word.named c mem)

namespace Declared

/-- What follows the part of the type that is read. -/
def after (d : Declared) : List Char := d.base.unread ++ d.behind

theorem text_eq_append (d : Declared) : d.text = d.base.lead ++ d.after := by
  rw [text, d.base.text_eq_append, List.append_assoc, after]

theorem Sound.after_eq_cons (sound : d.Sound) :
    ∃ c more, d.after = c :: more ∧ (isBlank c = true ∨ c = '[') := by
  have inner := sound.base
  rw [after]
  generalize d.base = base at inner
  cases inner with
  | path named further => exact sound.behind_eq_cons
  | payable apart =>
    obtain ⟨c, rest, rfl, blank, -⟩ := apart.eq_cons
    exact ⟨c, _, rfl, .inl blank⟩

theorem Sound.pathRest? (sound : d.Sound) :
    Fragment.pathRest? (d.text ++ [';']) = some (d.after ++ [';']) := by
  have ends : ∀ c ∈ (d.after ++ [';']).head?, isPathChar c = false := by
    obtain ⟨c, more, begins, ends⟩ := sound.after_eq_cons
    rw [begins]
    simpa using not_isPathChar ends
  rw [d.text_eq_append, List.append_assoc]
  exact pathRest?_append sound.base.starts sound.base.isPathChar ends

theorem Sound.starts (sound : d.Sound) : d.text.head?.any isNameStart = true := by
  rw [d.text_eq_append]
  exact head?_any_append sound.base.starts _

theorem Sound.isAmount (sound : d.Sound) : Fragment.isAmount (d.text ++ [';']) = false := by
  apply isAmount_of_isNameStart
  exact head?_any_append sound.starts _

/-- **A type of one word is read as one**, whatever follows it in a declaration. -/
theorem Sound.typed (sound : d.Sound) (word : ∀ gap, d.base ≠ .payable gap) :
    isTypedName (d.text ++ [';']) = true := by
  have after : d.after = d.behind := by
    rw [Declared.after]
    cases base : d.base with
    | path first more => rfl
    | payable gap => exact absurd base (word gap)
  rw [isTypedName, sound.pathRest?, after]
  dsimp only
  rw [sound.suffixesRest, sound.declaresName]

/-- **The type of two words is taken for a type and a name**, behind which nothing may follow. -/
theorem Sound.untyped (sound : d.Sound) {gap : List Char} (words : d.base = .payable gap) :
    isTypedName (d.text ++ [';']) = false := by
  have apart : IsGap gap := by
    have inner := sound.base
    rw [words] at inner
    cases inner with
    | payable apart => exact apart
  have second : IsIdentifier "payable".toList := by decide
  have ends : ∀ c ∈ (d.behind ++ [';']).head?, isNameChar c = false := by
    obtain ⟨c, more, begins, ends⟩ := sound.behind_eq_cons
    have other : isPathChar c = false := not_isPathChar ends
    rw [begins]
    simpa using (Bool.or_eq_false_iff.mp other).1
  have after : d.after ++ [';'] = gap ++ ("payable".toList ++ (d.behind ++ [';'])) := by
    rw [Declared.after, words, Base.unread, List.append_assoc, List.append_assoc gap]
  have none : suffixRest? (d.after ++ [';']) = none := by
    rw [after, suffixRest?, stripStart_append apart.blank, stripStart_shown (second.shown _)]
    rfl
  have listed : locations.contains "payable".toList = false := by decide
  rw [isTypedName, sound.pathRest?]
  dsimp only
  rw [suffixesRest_of_none none, after, Fragment.declaresName, apart.blankRest? (second.shown _)]
  dsimp only
  rw [second.name? ends]
  simp only [sound.endsHere, listed, Bool.false_and, Bool.or_false]

end Declared

/-! ## Where declarations are placed -/

/-- The first word of a text: what stands in front of white space. -/
def firstWord (cs : List Char) : List Char := cs.takeWhile (!isBlank ·)

/-- What begins with one word begins with no other, unless one of them begins the other. -/
theorem startsWith_append {start : String} {word : List Char}
    (apart : ¬ start.toList <+: word ∧ ¬ word <+: start.toList) (rest : List Char) :
    startsWith start (word ++ rest) = false := by
  rw [← Bool.not_eq_true, startsWith_iff]
  intro begins
  obtain shorter | longer := List.prefix_or_prefix_of_prefix begins (List.prefix_append word rest)
  · exact apart.1 shorter
  · exact apart.2 longer

namespace Declared

theorem Sound.ne_nil (sound : d.Sound) : d.text ≠ [] := by
  obtain ⟨c, more, begins, -⟩ := sound.after_eq_cons
  simp [d.text_eq_append, begins]

theorem Sound.last_named (sound : d.Sound) : ∀ c ∈ d.text.getLast?, isNameChar c = true := by
  obtain ⟨c, more, name, -⟩ := sound.name.eq_cons
  have shown : d.name ≠ [] := by simp [name]
  have inner : d.name <:+ d.trail := (List.suffix_append d.gap d.name).trans (List.suffix_append _ _)
  have behind : d.trail <:+ d.behind := List.suffix_append _ _
  obtain ⟨front, whole⟩ := inner.trans (behind.trans (List.suffix_append d.base.text d.behind))
  intro c last
  rw [text, ← whole, List.getLast?_append_of_ne_nil _ shown] at last
  exact sound.name.named c (List.mem_of_getLast? last)

theorem Sound.first_named (sound : d.Sound) : ∀ c ∈ d.text.head?, isNameChar c = true := by
  have starts := sound.starts
  intro c first
  rw [Option.mem_def.mp first] at starts
  exact isNameChar_of_isNameStart starts

/-- **A declaration belongs to the entry function** if its first word is no keyword of another
place. -/
theorem Sound.first (sound : d.Sound)
    (free : ∀ k ∈ placingKeywords, firstWord d.text ≠ k.toList) : Rule.first d.text = .body := by
  by_contra placed
  obtain ⟨k, known, c, rest, whole, separates⟩ := separated_of_first placed
  obtain ⟨start, more, begins, ends⟩ := sound.after_eq_cons
  have separator : isPathChar c = false ∧ c ≠ '[' := by
    obtain blank | rfl : isBlank c = true ∨ c = '(' := by simpa [isSeparator] using separates
    · refine ⟨not_isPathChar (.inl blank), ?_⟩
      rintro rfl
      cases blank
    · decide
  have letters : ∀ c ∈ k.toList, isPathChar c = true ∧ isBlank c = false := by
    have all : ∀ k ∈ placingKeywords, k.toList.all (fun c => isPathChar c && !isBlank c) = true := by
      decide
    simpa using all k known
  -- the keyword is all of the path that the declaration begins with
  have cut : d.base.lead = k.toList ∧ start = c := by
    have same : d.base.lead ++ start :: more = k.toList ++ c :: rest := by
      rw [← whole, d.text_eq_append, begins]
    have lead : d.base.lead = k.toList := by
      have cut := congrArg (List.takeWhile isPathChar) same
      rwa [takeWhile_until sound.base.isPathChar (by simpa using not_isPathChar ends),
        takeWhile_until (fun c mem => (letters c mem).1) (by simpa using separator.1)]
        at cut
    rw [lead] at same
    exact ⟨lead, (List.cons.inj (List.append_cancel_left same)).1⟩
  obtain ⟨-, rfl⟩ := cut
  have blank : isBlank start = true := ends.resolve_right separator.2
  refine free k known ?_
  rw [firstWord, whole]
  apply takeWhile_until
  · intro c mem
    simp [(letters c mem).2]
  · simpa using blank

/-- **A declaration has no value**, with one exception: one with a type of two words, in which
nothing is assigned. -/
theorem Sound.yieldsNothing_iff (sound : d.Sound) :
    yieldsNothing (d.text ++ [';']) = true ↔
      (∀ gap, d.base ≠ .payable gap) ∨ hasAssignment (d.text ++ [';']) = true := by
  cases base : d.base with
  | path first more =>
    have typed := sound.typed (by simp [base])
    simp [yieldsNothing, looksLikeDeclaration, sound.isAmount, typed]
  | payable gap =>
    have words : d.text ++ [';'] = "address".toList ++ (d.after ++ [';']) := by
      rw [d.text_eq_append, List.append_assoc, base]
      rfl
    have empty : (d.text ++ [';'] == [';']) = false := by simpa using sound.ne_nil
    have silent : silentStarts.any (startsWith · (d.text ++ [';'])) = false := by
      have apart : ∀ start ∈ silentStarts,
          ¬ start.toList <+: "address".toList ∧ ¬ "address".toList <+: start.toList := by
        decide
      rw [List.any_eq_false, words]
      intro start mem
      rw [startsWith_append (apart start mem)]
      decide
    have control : isControl (d.text ++ [';']) = false := by
      have apart : ∀ start ∈ controlKeywords,
          ¬ start.toList <+: "address".toList ∧ ¬ "address".toList <+: start.toList := by
        decide
      rw [← Bool.not_eq_true, isControl_iff]
      rintro ⟨k, mem, rest, whole, -⟩
      have begins : startsWith k (d.text ++ [';']) = true := startsWith_iff.mpr ⟨rest, whole.symm⟩
      rw [words, startsWith_append (apart k mem)] at begins
      cases begins
    have brace : endsIn '\x7d' (d.text ++ [';']) = false := by simp [endsIn]
    simp [yieldsNothing, empty, silent, control, brace, looksLikeDeclaration,
      sound.untyped base]

end Declared

end Fragment

namespace Statement

open Fragment

/-- **A declaration is a statement of the entry function, and has no value**, with one exception: a
variable of the elementary type of two words is taken for a value, unless something is assigned
between the brackets of its type. -/
theorem ofText_declared {d : Declared} (sound : d.Sound)
    (free : ∀ k ∈ placingKeywords, firstWord d.text ≠ k.toList) :
    let statement := ofText (String.ofList d.text) none
    statement.scope = .main ∧ statement.text = String.ofList (d.text ++ [';']) ∧
      (statement.yieldsNothing = true ↔
        (∀ gap, d.base ≠ .payable gap) ∨ hasAssignment (d.text ++ [';']) = true) ∧
      (statement.yieldsNothing = true → ∀ session,
        Frame.body (Session.push session statement) = session.inScope .main ++ [statement]) := by
  have trim : Text.Trim d.text := trim_named sound.first_named sound.last_named
  have ended : terminate d.text = d.text ++ [';'] := terminate_named sound.last_named
  have placed : ofText (String.ofList d.text) none = byRule .body d.text :=
    ofText_of_body sound.ne_nil trim (sound.first free)
  rw [placed]
  refine ⟨rfl, congrArg String.ofList ended, ?_, ?_⟩
  · rw [byRule_body_yieldsNothing, ended, sound.yieldsNothing_iff]
  · intro silent session
    exact Frame.body_push rfl silent session

/-- A declaration of a variable of a type with a point in its name. -/
theorem ofText_declared_mapping :
    let d : Declared :=
      ⟨.path "Lib".toList ["Map".toList], [⟨[' '], "2".toList⟩, ⟨[], []⟩],
        some ("\t".toList, "storage".toList), [' ', ' '], "m".toList⟩
    d.text = "Lib.Map [2][]\tstorage  m".toList ∧
      (ofText "Lib.Map [2][]\tstorage  m" none).scope = .main ∧
      (ofText "Lib.Map [2][]\tstorage  m" none).yieldsNothing = true := by
  intro d
  have text : d.text = "Lib.Map [2][]\tstorage  m".toList := by decide
  have sound : d.Sound := by
    refine ⟨.path (by decide) (by decide), ?_, ?_, ⟨by decide, by decide⟩, by decide⟩
    · intro suffix mem
      obtain rfl | rfl : suffix = ⟨[' '], "2".toList⟩ ∨ suffix = ⟨[], []⟩ := by
        simpa [d] using mem
      · exact ⟨by decide, by decide⟩
      · exact ⟨by decide, by decide⟩
    · rintro place ⟨⟩
      exact ⟨⟨by decide, by decide⟩, by decide⟩
  have free : ∀ k ∈ placingKeywords, firstWord d.text ≠ k.toList := by
    rw [text]
    decide
  have placed := ofText_declared sound free
  rw [text, String.ofList_toList] at placed
  exact ⟨text, placed.1, placed.2.2.1.mpr (.inl (by simp [d]))⟩

/-- A declaration of a variable that is taken for a value. -/
theorem ofText_declared_payable :
    let d : Declared :=
      ⟨.payable [' '], [], none, [' '], "x".toList⟩
    d.Sound ∧ (∀ k ∈ placingKeywords, firstWord d.text ≠ k.toList) ∧
      String.ofList d.text = "address payable x" ∧
      (ofText "address payable x" none).yieldsNothing = false := by
  intro d
  refine ⟨?_, by decide, by decide, by decide +kernel⟩
  exact ⟨.payable ⟨by decide, by decide⟩, by simp [d], by simp [d], ⟨by decide, by decide⟩,
    by decide⟩

end Statement

end SolidityRepl
