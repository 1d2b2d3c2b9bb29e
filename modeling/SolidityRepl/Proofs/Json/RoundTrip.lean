import Mathlib.Data.List.Infix
import SolidityRepl.Json.Printer
import SolidityRepl.Proofs.Json.Grammar

namespace SolidityRepl.Json

/-- The digits of a unit write it. -/
theorem unit?_hexPadded {n : Nat} (small : n < 0x10000) :
    ∃ x y z w, unit? x y z w = some n ∧ escapeUnit n = ['\\', 'u', x, y, z, w] := by
  have digit : ∀ k, Text.hexValue? (Text.hexDigit (k % 16)) = some (k % 16) :=
    fun k => Text.hexValue?_hexDigit (Nat.mod_lt k (by decide))
  have whole : ((n / 16 / 16 / 16 % 16 * 16 + n / 16 / 16 % 16) * 16 + n / 16 % 16) * 16 + n % 16 =
      n := by
    omega
  refine ⟨_, _, _, _, ?_, rfl⟩
  simp [unit?, digit, whole]

/-- A character of one unit may be written by the number of it. -/
theorem spells_escapeUnit {c : Char} (narrow : c.toNat < 0x10000) :
    SpellsChar c (escapeUnit c.toNat) := by
  obtain ⟨x, y, z, w, number, shape⟩ := unit?_hexPadded narrow
  rw [shape]
  exact .unit number

/-- And one of two by both. -/
theorem spells_escapeUnits {c : Char} (wide : 0x10000 ≤ c.toNat) :
    SpellsChar c (escapeUnit (highUnit c.toNat) ++ escapeUnit (lowUnit c.toNat)) := by
  have valid := toNat_valid c
  have small : highUnit c.toNat < 0x10000 ∧ lowUnit c.toNat < 0x10000 := by
    unfold highUnit lowUnit
    omega
  obtain ⟨x, y, z, w, high, shape⟩ := unit?_hexPadded small.1
  obtain ⟨x', y', z', w', low, shape'⟩ := unit?_hexPadded small.2
  rw [shape, shape']
  exact .pair wide high low

/-- **A character is written as it may be.** -/
theorem spells_escape (c : Char) : SpellsChar c (escape c) := by
  have same : ∀ n, c.toNat = n → c = Char.ofNat n := by
    rintro n rfl
    exact (Char.ofNat_toNat c).symm
  -- the cases are those of `escape`
  unfold escape
  dsimp only
  split
  · rename_i special
    simp only [Bool.or_eq_true, beq_iff_eq] at special
    obtain (rfl | rfl) | rfl := special <;> exact .letter rfl
  split
  · rename_i special
    obtain rfl := same _ (beq_iff_eq.mp special)
    exact .letter rfl
  split
  · rename_i special
    obtain rfl := same _ (beq_iff_eq.mp special)
    exact .letter rfl
  split
  · rename_i special
    obtain rfl := beq_iff_eq.mp special
    exact .letter rfl
  split
  · rename_i special
    obtain rfl := beq_iff_eq.mp special
    exact .letter rfl
  split
  · rename_i special
    obtain rfl := beq_iff_eq.mp special
    exact .letter rfl
  split
  · rename_i control
    exact spells_escapeUnit (by omega)
  split
  · rename_i quoted _ _ _ _ _ printable ascii
    simp only [Bool.or_eq_true, beq_iff_eq, not_or] at quoted
    exact .plain (by omega) quoted.1.1 quoted.1.2
  split
  · rename_i narrow
    exact spells_escapeUnit narrow
  · rename_i wide
    exact spells_escapeUnits (by omega)

theorem spells_flatMap (cs : List Char) : SpellsText cs (cs.flatMap escape) := by
  induction cs with
  | nil => exact .nil
  | cons c cs ih => exact .cons (spells_escape c) ih

theorem spells_renderText (s : String) : SpellsString s (renderText s) :=
  ⟨_, spells_flatMap s.toList, rfl⟩

/-- **A text between quotes is read back.** -/
theorem textFrom_renderText (s : String) (rest : List Char) :
    textFrom (s.toList.flatMap escape ++ '"' :: rest) = .ok (s, rest) := by
  rw [textFrom_spelled (spells_flatMap s.toList), String.ofList_toList]

/-- Texts, and lists that lie in each other `room` deep at most. -/
inductive Written : Nat → Json → Prop
  | text {room : Nat} (s : String) : Written room (.str s)
  | list {room : Nat} {items : List Json} (all : ∀ v ∈ items, Written room v) :
      Written (room + 1) (.arr items)

/-- Values are written as items may be. -/
theorem spells_renderItems {P : Json → List Char → Prop} {items : List Json}
    (each : ∀ v ∈ items, P v (renderChars v)) (some : items ≠ []) :
    SpellsItems P items (renderItems items) := by
  induction items with
  | nil => exact absurd rfl some
  | cons v items ih =>
    have first := each v List.mem_cons_self
    cases items with
    | nil =>
      have last := SpellsItems.last gap_nil first gap_nil
      rwa [List.nil_append, List.append_nil] at last
    | cons w items =>
      have others := ih (fun x mem => each x (List.mem_cons_of_mem v mem)) (by simp)
      exact .more gap_nil first gap_nil others

theorem spells_renderList {P : Json → List Char → Prop} {items : List Json}
    (each : ∀ v ∈ items, P v (renderChars v)) : SpellsList P items (renderChars (.arr items)) := by
  rw [renderChars]
  by_cases none : items = []
  · subst none
    exact .empty gap_nil
  · exact .items (spells_renderItems each none)

/-- **A value is read back**, however much comes after it. -/
theorem Written.reads {room : Nat} {v : Json} (written : Written room v) :
    Reads room v (renderChars v) := by
  induction written with
  | text s =>
    rw [renderChars]
    exact .text _ (spells_renderText s)
  | @list room items all ih =>
    have spells : SpellsList (fun v cs => v ∈ items ∧ cs = renderChars v) items _ :=
      spells_renderList fun v mem => ⟨mem, rfl⟩
    have each : ∀ v cs, v ∈ items ∧ cs = renderChars v → Reads room (id v) cs := by
      rintro v _ ⟨mem, rfl⟩
      exact ih v mem
    have whole := Reads.list each spells
    rwa [List.map_id] at whole

/-- **What is written is read back.** -/
theorem read_render {v : Json} (written : Written mostNested v) : read (render v) = .ok v := by
  refine read_spelled written.reads gap_nil gap_nil ?_
  rw [render, String.toList_ofList, List.nil_append, List.append_nil]

end SolidityRepl.Json
