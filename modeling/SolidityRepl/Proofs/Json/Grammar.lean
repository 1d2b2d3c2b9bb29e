import SolidityRepl.Json.Parser

/-!
# What may be written for texts and lists

Between quotes a character stands for itself, or is written behind a backslash: by a letter, by the
number of its UTF-16 unit, or by the numbers of two. White space may stand around the items of a
list.
-/

namespace SolidityRepl.Json

/-! ## UTF-16 units -/

/-- The first unit of a character beyond the first plane. -/
def highUnit (n : Nat) : Nat := 0xd800 + (n - 0x10000) / 0x400

def lowUnit (n : Nat) : Nat := 0xdc00 + (n - 0x10000) % 0x400

theorem toNat_valid (c : Char) : c.toNat < 0xd800 ∨ 0xdfff < c.toNat ∧ c.toNat < 0x110000 := c.valid

theorem isHighUnit_toNat (c : Char) : isHighUnit c.toNat = false := by
  have valid := toNat_valid c
  simp only [isHighUnit, Bool.and_eq_false_iff, decide_eq_false_iff_not]
  omega

theorem isLowUnit_toNat (c : Char) : isLowUnit c.toNat = false := by
  have valid := toNat_valid c
  simp only [isLowUnit, Bool.and_eq_false_iff, decide_eq_false_iff_not]
  omega

theorem isHighUnit_highUnit (c : Char) : isHighUnit (highUnit c.toNat) = true := by
  have valid := toNat_valid c
  have bounds : 0xd800 ≤ highUnit c.toNat ∧ highUnit c.toNat < 0xdc00 := by
    unfold highUnit
    omega
  simp [isHighUnit, bounds]

theorem isLowUnit_lowUnit (n : Nat) : isLowUnit (lowUnit n) = true := by
  have bounds : 0xdc00 ≤ lowUnit n ∧ lowUnit n < 0xe000 := by
    unfold lowUnit
    omega
  simp [isLowUnit, bounds]

theorem ofUnits_units {c : Char} (wide : 0x10000 ≤ c.toNat) :
    ofUnits (highUnit c.toNat) (lowUnit c.toNat) = c := by
  have whole : 0x10000 + (highUnit c.toNat - 0xd800) * 0x400 + (lowUnit c.toNat - 0xdc00) =
      c.toNat := by
    simp only [highUnit, lowUnit]
    omega
  rw [ofUnits, whole, Char.ofNat_toNat]

/-- A unit that is a character of its own is joined with no other. -/
theorem joinUnits_toNat (c : Char) (rest : List Nat) :
    joinUnits (c.toNat :: rest) = c :: joinUnits rest := by
  have own : ofUnit c.toNat = c := by
    simp [ofUnit, isHighUnit_toNat, isLowUnit_toNat]
  cases rest with
  | nil => simp [joinUnits, own]
  | cons low rest => simp [joinUnits, isHighUnit_toNat, own]

/-- Two units of one character are joined. -/
theorem joinUnits_pair {c : Char} (wide : 0x10000 ≤ c.toNat) (rest : List Nat) :
    joinUnits (highUnit c.toNat :: lowUnit c.toNat :: rest) = c :: joinUnits rest := by
  rw [joinUnits, isHighUnit_highUnit, isLowUnit_lowUnit, Bool.and_self, if_pos rfl,
    ofUnits_units wide]

/-! ## Texts -/

/-- What may be written for a character between quotes. -/
inductive SpellsChar : Char → List Char → Prop
  | plain {c : Char} (visible : 0x20 ≤ c.toNat) (quote : c ≠ '"') (backslash : c ≠ '\\') :
      SpellsChar c [c]
  | letter {c e : Char} (means : simpleEscape? e = some c) : SpellsChar c ['\\', e]
  | unit {c x y z w : Char} (number : unit? x y z w = some c.toNat) :
      SpellsChar c ['\\', 'u', x, y, z, w]
  | pair {c x y z w x' y' z' w' : Char} (wide : 0x10000 ≤ c.toNat)
      (high : unit? x y z w = some (highUnit c.toNat))
      (low : unit? x' y' z' w' = some (lowUnit c.toNat)) :
      SpellsChar c ['\\', 'u', x, y, z, w, '\\', 'u', x', y', z', w']

/-- What may be written for some characters between quotes. -/
inductive SpellsText : List Char → List Char → Prop
  | nil : SpellsText [] []
  | cons {c : Char} {cs piece rest : List Char} (first : SpellsChar c piece)
      (others : SpellsText cs rest) : SpellsText (c :: cs) (piece ++ rest)

/-- Four digits write a unit. -/
theorem unitFrom_unit {x y z w : Char} {n : Nat} (number : unit? x y z w = some n)
    (rest : List Char) : unitFrom (x :: y :: z :: w :: rest) = .ok (n, rest) := by
  simp only [unit?, Option.bind_eq_bind, Option.bind_eq_some_iff, Option.some.injEq] at number
  obtain ⟨a, ha, b, hb, c, hc, d, hd, rfl⟩ := number
  simp [unitFrom, ha, hb, hc, hd]

theorem unitsFrom_unit {x y z w : Char} {n : Nat} (number : unit? x y z w = some n) (fuel : Nat)
    (read : List Nat) (rest : List Char) :
    unitsFrom (fuel + 1) read ('\\' :: 'u' :: x :: y :: z :: w :: rest) =
      unitsFrom fuel (n :: read) rest := by
  simp only [unitsFrom, unitFrom_unit number]
  rfl

/-- What is read of a character that stands for itself. -/
theorem unitsFrom_plain {c : Char} (visible : 0x20 ≤ c.toNat) (quote : c ≠ '"')
    (backslash : c ≠ '\\') (fuel : Nat) (read : List Nat) (rest : List Char) :
    unitsFrom (fuel + 1) read (c :: rest) = unitsFrom fuel (c.toNat :: read) rest := by
  have null : c ≠ '\x00' := by
    rintro rfl
    exact absurd visible (by decide)
  simp [unitsFrom, quote, null, backslash]

/-- What is read of a backslash and a letter. -/
theorem unitsFrom_letter {e c : Char} (means : simpleEscape? e = some c) (fuel : Nat)
    (read : List Nat) (rest : List Char) :
    unitsFrom (fuel + 1) read ('\\' :: e :: rest) = unitsFrom fuel (c.toNat :: read) rest := by
  have other : e ≠ 'u' := by
    rintro rfl
    cases means
  rw [unitsFrom.eq_def]
  simp [means]

/-- Units that are read of something written, no more than it has characters, and what they are
joined to. -/
structure Units (cs spelled : List Char) (ns : List Nat) : Prop where
  few : ns.length ≤ spelled.length
  joined : ∀ more, joinUnits (ns ++ more) = cs ++ joinUnits more
  read : ∀ fuel before rest, unitsFrom (fuel + ns.length) before (spelled ++ rest) =
    unitsFrom fuel (ns.reverse ++ before) rest

/-- **A character is read**, however it is written. -/
theorem SpellsChar.units {c : Char} {piece : List Char} (spells : SpellsChar c piece) :
    ∃ ns, Units [c] piece ns := by
  cases spells with
  | plain visible quote backslash =>
    refine ⟨[c.toNat], by simp, joinUnits_toNat c, fun fuel before rest => ?_⟩
    exact unitsFrom_plain visible quote backslash fuel before rest
  | letter means =>
    refine ⟨[c.toNat], by simp, joinUnits_toNat c, fun fuel before rest => ?_⟩
    exact unitsFrom_letter means fuel before rest
  | unit number =>
    refine ⟨[c.toNat], by simp, joinUnits_toNat c, fun fuel before rest => ?_⟩
    exact unitsFrom_unit number fuel before rest
  | pair wide high low =>
    refine ⟨[highUnit c.toNat, lowUnit c.toNat], by simp, joinUnits_pair wide, ?_⟩
    intro fuel before rest
    exact (unitsFrom_unit high (fuel + 1) before _).trans (unitsFrom_unit low fuel _ rest)

/-- **So are characters**, one after the other. -/
theorem SpellsText.units {cs spelled : List Char} (spells : SpellsText cs spelled) :
    ∃ ns, Units cs spelled ns := by
  induction spells with
  | nil => exact ⟨[], by simp, fun more => rfl, fun fuel before rest => rfl⟩
  | @cons c cs piece rest first others ih =>
    obtain ⟨ms, one⟩ := first.units
    obtain ⟨ns, more⟩ := ih
    refine ⟨ms ++ ns, ?_, ?_, ?_⟩
    · simp only [List.length_append]
      exact Nat.add_le_add one.few more.few
    · intro tail
      rw [List.append_assoc, one.joined, more.joined]
      rfl
    · intro fuel before tail
      rw [List.length_append, Nat.add_comm ms.length, ← Nat.add_assoc, List.append_assoc, one.read,
        more.read, List.reverse_append, List.append_assoc]

/-- **A text is read up to its closing quote**, however it is written. -/
theorem textFrom_spelled {cs spelled : List Char} (spells : SpellsText cs spelled)
    (rest : List Char) : textFrom (spelled ++ '"' :: rest) = .ok (String.ofList cs, rest) := by
  obtain ⟨ns, units⟩ := spells.units
  obtain ⟨fuel, spare⟩ : ∃ fuel, (spelled ++ '"' :: rest).length = fuel + 1 + ns.length := by
    refine ⟨spelled.length - ns.length + rest.length, ?_⟩
    have few := units.few
    simp only [List.length_append, List.length_cons]
    omega
  have done : unitsFrom (fuel + 1) (ns.reverse ++ []) ('"' :: rest) = .ok (ns, rest) := by
    simp [unitsFrom]
  have joined : joinUnits ns = cs := by simpa [joinUnits] using units.joined []
  rw [textFrom, spare, units.read, done]
  simp only [Except.map, joined]

/-! ## White space -/

def Gap (cs : List Char) : Prop := ∀ c ∈ cs, isSpace c = true

theorem gap_nil : Gap [] := by
  intro c among
  cases among

theorem skipSpace_append {gap : List Char} (blank : Gap gap) (cs : List Char) :
    skipSpace (gap ++ cs) = skipSpace cs := List.dropWhile_append_of_pos blank

theorem skipSpace_cons {c : Char} (h : isSpace c = false) (rest : List Char) :
    skipSpace (c :: rest) = c :: rest := by
  simp [skipSpace, h]

/-- White space before a value makes no difference. -/
theorem valueFrom_gap {gap : List Char} (blank : Gap gap) (fuel room : Nat) (cs : List Char) :
    valueFrom fuel room (gap ++ cs) = valueFrom fuel room cs := by
  cases fuel with
  | zero => rw [valueFrom, valueFrom]
  | succ fuel => simp only [valueFrom, skipSpace_append blank]

/-! ## Values -/

/-- What is read as a value in lists and objects that may go `room` deep, whatever comes after. -/
structure Reads (room : Nat) (v : Json) (cs : List Char) : Prop where
  begins : ∃ c more, cs = c :: more ∧ isSpace c = false ∧ c ≠ ']'
  read : ∀ fuel rest, 2 * cs.length ≤ fuel → valueFrom fuel room (cs ++ rest) = .ok (v, rest)

def SpellsString (s : String) (cs : List Char) : Prop :=
  ∃ spelled, SpellsText s.toList spelled ∧ cs = '"' :: (spelled ++ ['"'])

/-- **A text between quotes is read.** -/
theorem Reads.text (room : Nat) {s : String} {cs : List Char} (spells : SpellsString s cs) :
    Reads room (.str s) cs := by
  obtain ⟨spelled, each, rfl⟩ := spells
  refine ⟨⟨'"', _, rfl, by decide, by decide⟩, ?_⟩
  intro fuel rest enough
  obtain ⟨fuel, rfl⟩ : ∃ spare, fuel = spare + 1 := by
    simp only [List.length_cons] at enough
    exact ⟨fuel - 1, by omega⟩
  have shape : '"' :: (spelled ++ ['"']) ++ rest = '"' :: (spelled ++ '"' :: rest) := by simp
  rw [shape, valueFrom, skipSpace_cons (by decide)]
  simp only [beq_self_eq_true, if_true, textFrom_spelled each, Except.map, String.ofList_toList]

variable {α : Type} (P : α → List Char → Prop)

/-- What may be written for the items of a list, of which there is one at least. -/
inductive SpellsItems : List α → List Char → Prop
  | last {a : α} {before cs after : List Char} (front : Gap before) (item : P a cs)
      (back : Gap after) : SpellsItems [a] (before ++ (cs ++ after))
  | more {a : α} {items : List α} {before cs after rest : List Char} (front : Gap before)
      (item : P a cs) (back : Gap after) (others : SpellsItems items rest) :
      SpellsItems (a :: items) (before ++ (cs ++ (after ++ ',' :: rest)))

inductive SpellsList : List α → List Char → Prop
  | empty {gap : List Char} (blank : Gap gap) : SpellsList [] ('[' :: (gap ++ [']']))
  | items {items : List α} {cs : List Char} (each : SpellsItems P items cs) :
      SpellsList items ('[' :: (cs ++ [']']))

variable {P} {room : Nat} {f : α → Json} {items : List α} {cs : List Char}

/-- Items do not begin with the bracket that closes a list. -/
theorem SpellsItems.begins (reads : ∀ a cs, P a cs → Reads room (f a) cs)
    (spells : SpellsItems P items cs) (rest : List Char) :
    ∃ c more, skipSpace (cs ++ rest) = c :: more ∧ c ≠ ']' := by
  have first : ∀ {a : α} {before body : List Char} (tail : List Char), Gap before → P a body →
      ∃ c more, skipSpace (before ++ (body ++ tail)) = c :: more ∧ c ≠ ']' := by
    intro a before body tail front item
    obtain ⟨c, more, rfl, fine, open'⟩ := (reads a body item).begins
    rw [skipSpace_append front, List.cons_append, skipSpace_cons fine]
    exact ⟨c, _, rfl, open'⟩
  cases spells with
  | last front item back =>
    rw [List.append_assoc, List.append_assoc]
    exact first _ front item
  | more front item back others =>
    rw [List.append_assoc, List.append_assoc]
    exact first _ front item

/-- A list from after an item: a comma and more of them, or its end. -/
def afterItem (fuel room : Nat) (read : List Json) : List Char → Reading Json
  | ',' :: more => itemsFrom fuel room read more
  | ']' :: r => .ok (.arr read.reverse, r)
  | _ => .error .badItemEnd

/-- An item is read with the white space around it. -/
theorem Reads.item {v : Json} {before body after : List Char} (reads : Reads room v body)
    (front : Gap before) (back : Gap after) {fuel : Nat} (enough : 2 * body.length ≤ fuel)
    {close : Char} (closes : isSpace close = false) (read : List Json) (rest : List Char) :
    itemsFrom (fuel + 1) room read (before ++ (body ++ (after ++ close :: rest))) =
      afterItem fuel room (v :: read) (close :: rest) := by
  have item := reads.read fuel (after ++ close :: rest) enough
  rw [← valueFrom_gap front] at item
  obtain ⟨c, more, rfl, fine, open'⟩ := reads.begins
  have start : skipSpace (before ++ (c :: more ++ (after ++ close :: rest))) =
      c :: (more ++ (after ++ close :: rest)) := by
    rw [skipSpace_append front, List.cons_append, skipSpace_cons fine]
  have stop : skipSpace (after ++ close :: rest) = close :: rest := by
    rw [skipSpace_append back, skipSpace_cons closes]
  rw [itemsFrom, start]
  split
  · rename_i same
    exact absurd (List.cons.inj same).1 open'
  · simp only [item, stop]
    rfl

/-- **Items are read if each of them is**, by induction on the list. -/
theorem itemsFrom_spelled (reads : ∀ a cs, P a cs → Reads room (f a) cs)
    (spells : SpellsItems P items cs) (fuel : Nat) (read : List Json) (rest : List Char)
    (enough : 2 * cs.length + 1 ≤ fuel) :
    itemsFrom fuel room read (cs ++ ']' :: rest) =
      .ok (.arr (read.reverse ++ items.map f), rest) := by
  induction spells generalizing fuel read with
  | last front item back =>
    obtain ⟨fuel, rfl⟩ : ∃ spare, fuel = spare + 1 := ⟨fuel - 1, by omega⟩
    simp only [List.length_append] at enough
    rw [List.append_assoc, List.append_assoc,
      (reads _ _ item).item front back (by omega) (by decide), afterItem]
    simp
  | more front item back others ih =>
    obtain ⟨fuel, rfl⟩ : ∃ spare, fuel = spare + 1 := ⟨fuel - 1, by omega⟩
    simp only [List.length_append, List.length_cons] at enough
    rw [List.append_assoc, List.append_assoc, List.append_assoc, List.cons_append,
      (reads _ _ item).item front back (by omega) (by decide)]
    show itemsFrom fuel room _ _ = _
    rw [ih fuel _ (by omega)]
    simp

/-- **A list is read if its items are.** -/
theorem Reads.list (reads : ∀ a cs, P a cs → Reads room (f a) cs)
    (spells : SpellsList P items cs) : Reads (room + 1) (.arr (items.map f)) cs := by
  cases spells with
  | @empty gap blank =>
    refine ⟨⟨'[', _, rfl, by decide, by decide⟩, ?_⟩
    intro fuel rest enough
    obtain ⟨fuel, rfl⟩ : ∃ spare, fuel = spare + 1 := by
      simp only [List.length_cons] at enough
      exact ⟨fuel - 1, by omega⟩
    have close : skipSpace (gap ++ ']' :: rest) = ']' :: rest := by
      rw [skipSpace_append blank, skipSpace_cons (by decide)]
    have shape : '[' :: (gap ++ [']']) ++ rest = '[' :: (gap ++ ']' :: rest) := by simp
    rw [shape, valueFrom, skipSpace_cons (by decide)]
    simp [startsNumber, close]
  | @items _ body each =>
    refine ⟨⟨'[', _, rfl, by decide, by decide⟩, ?_⟩
    intro fuel rest enough
    simp only [List.length_cons, List.length_append] at enough
    obtain ⟨fuel, rfl⟩ : ∃ spare, fuel = spare + 1 := ⟨fuel - 1, by omega⟩
    obtain ⟨c, more, start, open'⟩ := each.begins reads (']' :: rest)
    have all := itemsFrom_spelled reads each fuel [] rest (by omega)
    have shape : '[' :: (body ++ [']']) ++ rest = '[' :: (body ++ ']' :: rest) := by simp
    rw [shape, valueFrom, skipSpace_cons (by decide)]
    simp [startsNumber, start, open', all]

/-- **A value is read with white space around it.** -/
theorem read_spelled {v : Json} {s : String} {before body after : List Char}
    (reads : Reads mostNested v body) (front : Gap before) (back : Gap after)
    (whole : s.toList = before ++ (body ++ after)) : Json.read s = .ok v := by
  have enough : 2 * body.length ≤ 2 * s.toList.length + 2 := by
    rw [whole]
    simp only [List.length_append]
    omega
  have value := reads.read _ after enough
  rw [← valueFrom_gap front, ← whole] at value
  have done : skipSpace after = [] := by
    rw [← List.append_nil after, skipSpace_append back]
    rfl
  simp only [Json.read, value, done, List.isEmpty_nil, if_true]

end SolidityRepl.Json
