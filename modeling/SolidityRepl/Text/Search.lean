import SolidityRepl.Text.Word

/-!
# Searching and cutting text

The first place from the left at which something can be read, the last place of a word, and text
cut at the first or the last place of a character.
-/

namespace SolidityRepl.Text

variable {α : Type}

theorem append_of_isPrefixOf? {word cs rest : List Char} (h : word.isPrefixOf? cs = some rest) :
    word ++ rest = cs := by
  induction word generalizing cs with
  | nil =>
    have whole : some cs = some rest := h
    exact (Option.some.inj whole).symm
  | cons w ws ih =>
    cases cs with
    | nil =>
      have absent : (none : Option (List Char)) = some rest := h
      cases absent
    | cons c cs =>
      have step : (if w == c then ws.isPrefixOf? cs else none) = some rest := h
      split at step
      · rename_i hw
        rw [List.cons_append, ih step, eq_of_beq hw]
      · cases step

/-- The answer of a reader at the first place where it has one. The reader sees the character
before the place and the text from there on. -/
def firstMatch (read : Option Char → List Char → Option α) :
    Option Char → List Char → Option α
  | before, [] => read before []
  | before, c :: rest =>
    match read before (c :: rest) with
    | some a => some a
    | none => firstMatch read (some c) rest

/-- What stands before the last occurrence of a word. -/
def beforeLast? (word : List Char) : List Char → Option (List Char)
  | [] => if word.isEmpty then some [] else none
  | c :: rest =>
    match beforeLast? word rest with
    | some front => some (c :: front)
    | none => if word.isPrefixOf (c :: rest) then some [] else none

/-- What stands before the first occurrence of a character, and what stands after it. -/
def splitAtFirst? (stop : Char) : List Char → Option (List Char × List Char)
  | [] => none
  | c :: rest =>
    if c == stop then some ([], rest)
    else (splitAtFirst? stop rest).map fun (front, after) => (c :: front, after)

theorem length_splitAtFirst? {stop : Char} {cs front after : List Char}
    (h : splitAtFirst? stop cs = some (front, after)) : after.length < cs.length := by
  induction cs generalizing front with
  | nil => cases h
  | cons c rest ih =>
    simp only [splitAtFirst?] at h
    split at h
    · cases h; simp
    · cases hr : splitAtFirst? stop rest with
      | none => simp [hr] at h
      | some p =>
        obtain ⟨f, a⟩ := p
        simp only [hr, Option.map_some, Option.some.injEq, Prod.mk.injEq] at h
        have := ih (hr.trans (by rw [h.2]))
        simp only [List.length_cons]; omega

/-- What stands before the last occurrence of a character, and what stands after it. -/
def splitAtLast? (stop : Char) (cs : List Char) : Option (List Char × List Char) :=
  (splitAtFirst? stop cs.reverse).map fun (after, front) => (front.reverse, after.reverse)

/-- The text after the last occurrence of a character, or all of it. -/
def afterLast (stop : Char) (cs : List Char) : List Char :=
  ((splitAtLast? stop cs).map (·.2)).getD cs

/-- The text before the first of some characters, and the text from there on. -/
def cutBefore (stops : List Char) (cs : List Char) : List Char × List Char :=
  (cs.takeWhile (!stops.contains ·), cs.dropWhile (!stops.contains ·))

def startsWord (before : Option Char) : Bool :=
  match before with
  | some c => !isWord c
  | none => true

def occurs (word cs : List Char) : Bool :=
  (firstMatch (fun _ rest => if word.isPrefixOf rest then some () else none) none cs).isSome

end SolidityRepl.Text
