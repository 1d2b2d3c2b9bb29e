import Mathlib.Data.List.Nodup
import Mathlib.Data.List.Perm.Subperm
import SolidityRepl.Import.Closure
import SolidityRepl.Proofs.Act

/-!
# Gathering from somebody who always gives the same answers

Somebody who is asked for units knows the texts of some names and refuses all others. What is there
at any time was given or can be reached from what was given; a unit that has been looked through has
all its imports there, as far as they can be had.

* `Reached`: the units that can be reached, with their texts;
* `Sound`, `Consistent`: what holds after each question, and after each unit;
* `want_asking`, `wantAll_asking`, `visit_asking`: one name, the imports of one unit, one unit;
* `run_outcome`, `run_ends`: unit after unit, and that this comes to an end.
-/

namespace SolidityRepl.Import

open Gathering (Follows)

theorem textOf_sourceOf (text : String) : textOf (sourceOf text) = .ok text := rfl

/-- An import has a name, or its unit has no proper address to read a path from. -/
theorem unitName_ok_or_invalid (importer path : String) :
    (∃ name, unitName importer path = .ok name) ∨ unitName importer path = .error .invalidValue := by
  unfold unitName
  split
  · exact .inl ⟨_, rfl⟩
  · split
    · split
      · exact .inl ⟨_, rfl⟩
      · exact .inr rfl
    · exact .inl ⟨_, rfl⟩

/-- Somebody who always gives the same answers, and notes down what he is asked for. -/
def asking (answer : String → Answer) (name : String) : Act (List String) Answer :=
  Act.ofRun fun asked => (.ok (answer name), asked ++ [name])

@[simp] theorem run_asking (answer : String → Answer) (name : String) (asked : List String) :
    (asking answer name).run asked = (.ok (answer name), asked ++ [name]) := rfl

section

variable (answer : String → Answer) (sources : Keyed Json)

/-- A unit that is given, or that is imported by a reached one and can be had. -/
inductive Reached : String → String → Prop
  | given {name : String} {source : Json} {text : String} (mem : (name, source) ∈ sources)
      (holds : textOf source = .ok text) : Reached name text
  | imported {importer text path name text' : String} (reached : Reached importer text)
      (mem : path ∈ pathsOf text) (named : unitName importer path = .ok name)
      (new : name ∉ Keyed.keys sources) (found : answer name = .found text') : Reached name text'

/-- The name of an import of a reached unit. -/
def Sought (name : String) : Prop :=
  ∃ importer text path, Reached answer sources importer text ∧ path ∈ pathsOf text ∧
    unitName importer path = .ok name

/-- Every import of every reached unit has a name. -/
def Nameable : Prop :=
  ∀ importer text, Reached answer sources importer text → ∀ path ∈ pathsOf text,
    ∃ name, unitName importer path = .ok name

/-- What holds after each question. -/
structure Sound (g : Gathering) (asked : List String) : Prop where
  given : sources <+: g.sources
  distinct : (Keyed.keys g.sources).Nodup
  reached : ∀ unit ∈ g.sources, ∃ text, textOf unit.2 = .ok text ∧
    Reached answer sources unit.1 text
  added : ∀ unit ∈ g.sources, unit.1 ∉ Keyed.keys sources →
    ∃ text, unit.2 = sourceOf text ∧ answer unit.1 = .found text
  sought : ∀ name ∈ asked, Sought answer sources name ∧ name ∉ Keyed.keys sources
  once : ∀ name text, answer name = .found text → asked.count name ≤ 1
  kept : ∀ name text, answer name = .found text → name ∈ asked → name ∈ Keyed.keys g.sources

end

section

variable (answer : String → Answer)

/-- A name is there, or was asked for in vain. -/
def Provided (g : Gathering) (asked : List String) (name : String) : Prop :=
  name ∈ Keyed.keys g.sources ∨ (name ∈ asked ∧ ∃ why, answer name = .refused why)

/-- All imports of a unit are provided. -/
def Finished (g : Gathering) (asked : List String) (unit : String × Json) : Prop :=
  ∀ text, textOf unit.2 = .ok text → ∀ path ∈ pathsOf text,
    ∃ name, unitName unit.1 path = .ok name ∧ Provided answer g asked name

end

/-- More units, all of them still to be looked through, after more questions. -/
structure Grown (g : Gathering) (asked : List String) (g' : Gathering) (asked' : List String) :
    Prop where
  units : ∃ added, g'.sources = g.sources ++ added ∧ g'.pending = added.reverse ++ g.pending
  asked : asked <+: asked'

namespace Grown

variable {g g' g'' : Gathering} {asked asked' asked'' : List String}

theorem refl (g : Gathering) (asked : List String) : Grown g asked g asked :=
  ⟨⟨[], by simp⟩, List.prefix_rfl⟩

theorem trans (first : Grown g asked g' asked') (second : Grown g' asked' g'' asked'') :
    Grown g asked g'' asked'' := by
  obtain ⟨added, sources, pending⟩ := first.units
  obtain ⟨added', sources', pending'⟩ := second.units
  refine ⟨⟨added ++ added', ?_, ?_⟩, first.asked.trans second.asked⟩
  · rw [sources', sources, List.append_assoc]
  · rw [pending', pending, List.reverse_append, List.append_assoc]

theorem add (g : Gathering) (asked : List String) (name text : String) :
    Grown g asked (g.add name text) (asked ++ [name]) :=
  ⟨⟨[(name, sourceOf text)], rfl, rfl⟩, List.prefix_append _ _⟩

theorem keys (grown : Grown g asked g' asked') {name : String}
    (mem : name ∈ Keyed.keys g.sources) : name ∈ Keyed.keys g'.sources := by
  obtain ⟨added, sources, -⟩ := grown.units
  rw [sources, Keyed.keys, List.map_append]
  exact List.mem_append_left _ mem

theorem provided {answer : String → Answer} (grown : Grown g asked g' asked') {name : String}
    (provided : Provided answer g asked name) : Provided answer g' asked' name := by
  obtain mem | ⟨mem, why⟩ := provided
  · exact .inl (grown.keys mem)
  · exact .inr ⟨grown.asked.subset mem, why⟩

theorem finished {answer : String → Answer} (grown : Grown g asked g' asked')
    {unit : String × Json} (finished : Finished answer g asked unit) :
    Finished answer g' asked' unit := by
  intro text holds path mem
  obtain ⟨name, named, there⟩ := finished text holds path mem
  exact ⟨name, named, grown.provided there⟩

end Grown

section

variable {answer : String → Answer} {sources : Keyed Json} {g : Gathering} {asked : List String}

theorem Sound.not_mem (sound : Sound answer sources g asked) {name : String}
    (new : name ∉ Keyed.keys g.sources) : name ∉ Keyed.keys sources := by
  obtain ⟨added, whole⟩ := sound.given
  rw [← whole, Keyed.keys, List.map_append, List.mem_append] at new
  exact fun mem => new (.inl mem)

/-- A unit that was found is one more. -/
theorem Sound.add (sound : Sound answer sources g asked) {name text : String}
    (sought : Sought answer sources name) (new : name ∉ Keyed.keys g.sources)
    (found : answer name = .found text) :
    Sound answer sources (g.add name text) (asked ++ [name]) where
  given := sound.given.trans (List.prefix_append _ _)
  distinct := by
    have keys : Keyed.keys (g.add name text).sources = Keyed.keys g.sources ++ [name] := by
      simp [Gathering.add, Keyed.keys]
    rw [keys, List.nodup_append]
    refine ⟨sound.distinct, List.nodup_singleton name, fun a mem b mem' => ?_⟩
    obtain rfl := List.mem_singleton.mp mem'
    rintro rfl
    exact new mem
  reached unit mem := by
    obtain old | rfl := List.mem_append.mp mem |>.imp_right List.mem_singleton.mp
    · exact sound.reached unit old
    · obtain ⟨importer, text', path, reached, mem, named⟩ := sought
      exact ⟨text, rfl, .imported reached mem named (sound.not_mem new) found⟩
  added unit mem other := by
    obtain old | rfl := List.mem_append.mp mem |>.imp_right List.mem_singleton.mp
    · exact sound.added unit old other
    · exact ⟨text, rfl, found⟩
  sought name' mem := by
    obtain old | rfl := List.mem_append.mp mem |>.imp_right List.mem_singleton.mp
    · exact sound.sought name' old
    · exact ⟨sought, sound.not_mem new⟩
  once name' text' found' := by
    rw [List.count_append, List.count_singleton]
    split
    · -- it was not asked for before, or else it would be there
      rename_i same
      obtain rfl := eq_of_beq same
      have none : asked.count name = 0 := List.count_eq_zero.mpr fun mem =>
        new (sound.kept name text' found' mem)
      omega
    · exact sound.once name' text' found'
  kept name' text' found' mem := by
    rw [Gathering.add, Keyed.keys, List.map_append, List.mem_append]
    obtain old | rfl := List.mem_append.mp mem |>.imp_right List.mem_singleton.mp
    · exact .inl (sound.kept name' text' found' old)
    · exact .inr (List.mem_singleton.mpr rfl)

/-- A question that was refused changes nothing but the list of questions. -/
theorem Sound.refuse (sound : Sound answer sources g asked) {name why : String}
    (sought : Sought answer sources name) (new : name ∉ Keyed.keys g.sources)
    (refused : answer name = .refused why) : Sound answer sources g (asked ++ [name]) where
  given := sound.given
  distinct := sound.distinct
  reached := sound.reached
  added := sound.added
  sought name' mem := by
    obtain old | rfl := List.mem_append.mp mem |>.imp_right List.mem_singleton.mp
    · exact sound.sought name' old
    · exact ⟨sought, sound.not_mem new⟩
  once name' text' found' := by
    have other : name ≠ name' := by
      rintro rfl
      rw [refused] at found'
      cases found'
    rw [List.count_append, List.count_singleton, if_neg (by simpa using other)]
    exact sound.once name' text' found'
  kept name' text' found' mem := by
    obtain old | rfl := List.mem_append.mp mem |>.imp_right List.mem_singleton.mp
    · exact sound.kept name' text' found' old
    · rw [refused] at found'
      cases found'

/-- **One name.** It is there, or is asked for. -/
theorem want_asking (sound : Sound answer sources g asked) {name : String}
    (sought : Sought answer sources name) :
    ∃ g' asked', (Gathering.want (asking answer) g name).run asked = (.ok g', asked') ∧
      Sound answer sources g' asked' ∧ Grown g asked g' asked' ∧ Provided answer g' asked' name := by
  unfold Gathering.want
  split
  · rename_i mem
    exact ⟨g, asked, rfl, sound, .refl g asked, .inl mem⟩
  · rename_i new
    rw [Act.run_bind_ok (run_asking answer name asked)]
    cases reply : answer name with
    | found text =>
      have grown := Grown.add g asked name text
      have there : name ∈ Keyed.keys (g.add name text).sources := by
        simp [Gathering.add, Keyed.keys]
      exact ⟨_, _, rfl, sound.add sought new reply, grown, .inl there⟩
    | refused why =>
      have noted : name ∈ asked ++ [name] := List.mem_append_right _ (List.mem_singleton.mpr rfl)
      refine ⟨g, _, rfl, sound.refuse sought new reply, ?_, .inr ⟨noted, why, reply⟩⟩
      exact ⟨⟨[], by simp⟩, List.prefix_append _ _⟩

/-- **The imports of one unit**, one after the other, up to the first that has no name. -/
theorem wantAll_asking {importer text : String} (reached : Reached answer sources importer text)
    {paths : List String} (among : ∀ path ∈ paths, path ∈ pathsOf text)
    (sound : Sound answer sources g asked) :
    ∃ g' asked', Sound answer sources g' asked' ∧ Grown g asked g' asked' ∧
      ((Gathering.wantAll (asking answer) importer g paths).run asked = (.ok g', asked') ∧
          (∀ path ∈ paths, ∃ name, unitName importer path = .ok name ∧
            Provided answer g' asked' name) ∨
        (Gathering.wantAll (asking answer) importer g paths).run asked =
            (.error .invalidValue, asked') ∧
          ¬Nameable answer sources) := by
  induction paths generalizing g asked with
  | nil => exact ⟨g, asked, sound, .refl g asked, .inl ⟨rfl, by simp⟩⟩
  | cons path more ih =>
    have mem := among path List.mem_cons_self
    obtain ⟨name, named⟩ | invalid := unitName_ok_or_invalid importer path
    · obtain ⟨mid, asked', wanted, sound', grown, there⟩ :=
        want_asking sound ⟨importer, text, path, reached, mem, named⟩
      obtain ⟨g', asked'', sound'', grown', rest⟩ :=
        ih (fun path' mem' => among path' (List.mem_cons_of_mem _ mem')) sound'
      have run : (Gathering.wantAll (asking answer) importer g (path :: more)).run asked =
          (Gathering.wantAll (asking answer) importer mid more).run asked' := by
        rw [Gathering.wantAll, Act.run_bind_ok (by rw [named]; rfl), Act.run_bind_ok wanted]
      refine ⟨g', asked'', sound'', grown.trans grown', ?_⟩
      rw [run]
      obtain ⟨ran, all⟩ | failed := rest
      · refine .inl ⟨ran, fun path' mem' => ?_⟩
        obtain rfl | mem' := List.mem_cons.mp mem'
        · exact ⟨name, named, grown'.provided there⟩
        · exact all path' mem'
      · exact .inr failed
    · have run : (Gathering.wantAll (asking answer) importer g (path :: more)).run asked =
          (.error .invalidValue, asked) := by
        rw [Gathering.wantAll, Act.run_bind_error (by rw [invalid]; rfl)]
      refine ⟨g, asked, sound, .refl g asked, .inr ⟨run, fun nameable => ?_⟩⟩
      obtain ⟨name, named⟩ := nameable importer text reached path mem
      rw [invalid] at named
      cases named

end

section

variable (answer : String → Answer) (sources : Keyed Json)

/-- What holds after each unit: those that are not to be looked through any more are finished. -/
structure Consistent (g : Gathering) (asked : List String) : Prop extends
    Sound answer sources g asked where
  listed : ∀ unit ∈ g.pending, unit ∈ g.sources
  looked : ∀ unit ∈ g.sources, unit ∈ g.pending ∨ Finished answer g asked unit

def Outcome (ending : Except Failure Gathering × List String) : Prop :=
  (∃ g, ending.1 = .ok g ∧ g.pending = [] ∧ Consistent answer sources g ending.2) ∨
    (ending.1 = .error .invalidValue ∧ ¬Nameable answer sources ∧
      ∃ g, Sound answer sources g ending.2)

end

section

variable {answer : String → Answer} {sources : Keyed Json} {g : Gathering} {asked : List String}

theorem Sound.pending (sound : Sound answer sources g asked) (pending : List (String × Json)) :
    Sound answer sources { g with pending } asked :=
  ⟨sound.given, sound.distinct, sound.reached, sound.added, sound.sought, sound.once, sound.kept⟩

/-- **One unit.** It is finished then, and whatever was found is still to be looked through. -/
theorem visit_asking (consistent : Consistent answer sources g asked) {unit : String × Json}
    {pending : List (String × Json)} (next : g.pending = unit :: pending) :
    ∃ g' asked', Grown { g with pending } asked g' asked' ∧
      ((Gathering.visit (asking answer) { g with pending } unit).run asked = (.ok g', asked') ∧
          Consistent answer sources g' asked' ∨
        (Gathering.visit (asking answer) { g with pending } unit).run asked =
            (.error .invalidValue, asked') ∧
          ¬Nameable answer sources ∧ Sound answer sources g' asked') := by
  have mem : unit ∈ g.sources := consistent.listed unit (next ▸ List.mem_cons_self)
  obtain ⟨text, holds, reached⟩ := consistent.reached unit mem
  obtain ⟨g', asked', sound, grown, run⟩ :=
    wantAll_asking reached (fun path mem => mem) (consistent.toSound.pending pending)
  have visit : (Gathering.visit (asking answer) { g with pending } unit).run asked =
      (Gathering.wantAll (asking answer) unit.1 { g with pending } (pathsOf text)).run asked := by
    rw [Gathering.visit, Act.run_bind_ok (by rw [holds]; rfl)]
  refine ⟨g', asked', grown, ?_⟩
  rw [visit]
  obtain ⟨ran, all⟩ | ⟨ran, unnamed⟩ := run
  · refine .inl ⟨ran, sound, ?_, ?_⟩
    · obtain ⟨added, sources', pending'⟩ := grown.units
      intro other mem'
      rw [pending', List.mem_append, List.mem_reverse] at mem'
      rw [sources', List.mem_append]
      obtain new | old := mem'
      · exact .inr new
      · exact .inl (consistent.listed other (next ▸ List.mem_cons_of_mem _ old))
    · obtain ⟨added, sources', pending'⟩ := grown.units
      intro other mem'
      rw [sources', List.mem_append] at mem'
      rw [pending', List.mem_append, List.mem_reverse]
      obtain old | new := mem'
      · -- it waited, or was this very unit, or was finished before
        obtain waits | finished := consistent.looked other old
        · rw [next, List.mem_cons] at waits
          obtain rfl | waits := waits
          · refine .inr fun text' holds' path mem'' => ?_
            obtain rfl : text = text' := Except.ok.inj (holds.symm.trans holds')
            exact all path mem''
          · exact .inl (.inr waits)
        · exact .inr (grown.finished finished)
      · exact .inl (.inl new)
  · exact .inr ⟨ran, unnamed, sound⟩

/-- **Unit after unit**: if this ends, everything is finished or some import has no name. -/
theorem run_outcome (ends : Acc (Follows (asking answer)) (g, asked))
    (consistent : Consistent answer sources g asked) :
    Outcome answer sources (Gathering.run (asking answer) g asked) := by
  generalize start : (g, asked) = now at ends
  induction ends generalizing g asked with
  | intro now ends ih =>
    subst start
    have ends : Acc (Follows (asking answer)) (g, asked) := .intro _ ends
    cases waiting : g.pending with
    | nil =>
      rw [Gathering.run_done ends waiting]
      exact .inl ⟨g, rfl, waiting, consistent⟩
    | cons unit pending =>
      obtain ⟨g', asked', -, ⟨visited, consistent'⟩ | ⟨failed, unnamed, sound⟩⟩ :=
        visit_asking consistent waiting
      · rw [Gathering.run_visited ends waiting visited]
        exact ih (g', asked') ⟨unit, pending, waiting, visited⟩ consistent' rfl
      · rw [Gathering.run_failed ends waiting failed]
        exact .inr ⟨rfl, unnamed, g', sound⟩

/-- There are no more units than are given or known by name. -/
theorem Sound.length_le (sound : Sound answer sources g asked) {names : List String}
    (few : ∀ name text, answer name = .found text → name ∈ names) :
    g.sources.length ≤ sources.length + names.length := by
  have within : Keyed.keys g.sources ⊆ Keyed.keys sources ++ names := by
    intro name mem
    rw [List.mem_append]
    by_cases given : name ∈ Keyed.keys sources
    · exact .inl given
    · obtain ⟨unit, listed, rfl⟩ := List.mem_map.mp mem
      obtain ⟨text, -, found⟩ := sound.added unit listed given
      exact .inr (few unit.1 text found)
  have length := (List.subperm_of_subset sound.distinct within).length_le
  simpa [Keyed.keys] using length

/-- **It does end.** Each unit is looked through once, so that the number of those that have been
looked through grows with every step. -/
theorem run_ends {names : List String}
    (few : ∀ name text, answer name = .found text → name ∈ names)
    (consistent : Consistent answer sources g asked) :
    Acc (Follows (asking answer)) (g, asked) := by
  generalize rank : sources.length + names.length + g.pending.length - g.sources.length = steps
  induction steps using Nat.strongRecOn generalizing g asked with
  | ind steps ih =>
    refine .intro _ ?_
    rintro ⟨next, asked''⟩ ⟨unit, pending, waiting, visited⟩
    obtain ⟨g', asked', grown, ⟨visited', consistent'⟩ | ⟨failed, -⟩⟩ :=
      visit_asking consistent waiting
    · obtain ⟨same, rfl⟩ := Prod.mk.inj (visited'.symm.trans visited)
      obtain rfl := Except.ok.inj same
      refine ih _ ?_ consistent' rfl
      obtain ⟨added, sources', pending'⟩ := grown.units
      have bound := consistent.length_le few
      have bound' := consistent'.length_le few
      rw [waiting] at rank
      simp only [sources', pending', List.length_append, List.length_reverse,
        List.length_cons] at rank bound' ⊢
      omega
    · rw [failed] at visited
      cases visited

theorem run_gather {W : Type} (lookUp : String → Act W Answer) (sources : Keyed Json) (w : W) :
    (gather (some lookUp) sources).run w =
      ((Gathering.run lookUp (.start sources) w).1.map Gathering.sources,
        (Gathering.run lookUp (.start sources) w).2) := by
  rw [gather, Act.run_bind, Act.run_ofRun]
  split <;> rename_i ran <;> rw [ran] <;> rfl

theorem consistent_start (answer : String → Answer) (distinct : (Keyed.keys sources).Nodup)
    (texts : ∀ unit ∈ sources, ∃ text, textOf unit.2 = .ok text) :
    Consistent answer sources (.start sources) [] where
  given := List.prefix_rfl
  distinct := distinct
  reached unit mem := by
    obtain ⟨text, holds⟩ := texts unit mem
    exact ⟨text, holds, .given mem holds⟩
  added unit mem new := absurd (List.mem_map_of_mem mem) new
  sought _ mem := absurd mem List.not_mem_nil
  once _ _ _ := by simp
  kept _ _ _ mem := absurd mem List.not_mem_nil
  listed _ mem := List.mem_reverse.mp mem
  looked _ mem := .inl (List.mem_reverse.mpr mem)

end

end SolidityRepl.Import
