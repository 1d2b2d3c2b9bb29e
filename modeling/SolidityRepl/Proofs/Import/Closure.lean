import SolidityRepl.Proofs.Import.Gathering

/-!
# What is gathered

The given units and all that can be reached from them are gathered, and nothing else. Somebody who
knows finitely many names is asked as little as possible for that, and the order in which the units
are given has no part in it.
-/

namespace SolidityRepl.Import

open Gathering (Follows)

section

variable {answer : String → Answer} {sources : Keyed Json} {g : Gathering} {asked : List String}

/-- What has been reached is there once everything is finished. -/
theorem Consistent.mem_of_reached (consistent : Consistent answer sources g asked)
    (done : g.pending = []) {name text : String} (reached : Reached answer sources name text) :
    ∃ source, (name, source) ∈ g.sources ∧ textOf source = .ok text := by
  induction reached with
  | given mem holds => exact ⟨_, consistent.given.subset mem, holds⟩
  | @imported importer text path name text' _ mem named new found ih =>
    obtain ⟨source, there, holds⟩ := ih
    obtain waits | finished := consistent.looked _ there
    · rw [done] at waits
      exact absurd waits List.not_mem_nil
    · obtain ⟨name', named', provided⟩ := finished text holds path mem
      obtain rfl : name = name' := Except.ok.inj (named.symm.trans named')
      obtain mem' | ⟨-, why, refused⟩ := provided
      · obtain ⟨unit, listed, rfl⟩ := List.mem_map.mp mem'
        obtain ⟨text'', holds', found'⟩ := consistent.added unit listed new
        obtain rfl : text' = text'' := Answer.found.inj (found.symm.trans found')
        exact ⟨unit.2, listed, by rw [holds']; rfl⟩
      · rw [found] at refused
        cases refused

theorem Consistent.nameable (consistent : Consistent answer sources g asked)
    (done : g.pending = []) : Nameable answer sources := by
  intro importer text reached path mem
  obtain ⟨source, there, holds⟩ := consistent.mem_of_reached done reached
  obtain waits | finished := consistent.looked _ there
  · rw [done] at waits
    exact absurd waits List.not_mem_nil
  · obtain ⟨name, named, -⟩ := finished text holds path mem
    exact ⟨name, named⟩

end

section

variable (answer : String → Answer) (sources : Keyed Json)

/-- The units that there are in the end: the given ones, unchanged and in front, and the reached
ones that are not given, with the texts that were found. Whatever one of them imports is there too,
or was asked for in vain. -/
structure Closed (result : Keyed Json) (asked : List String) : Prop where
  given : sources <+: result
  distinct : (Keyed.keys result).Nodup
  mem_iff : ∀ name source, (name, source) ∈ result ↔ (name, source) ∈ sources ∨
    (name ∉ Keyed.keys sources ∧ ∃ text, Reached answer sources name text ∧ source = sourceOf text)
  imports : ∀ name source text, (name, source) ∈ result → textOf source = .ok text →
    ∀ path ∈ pathsOf text, ∃ imported, unitName name path = .ok imported ∧
      (imported ∈ Keyed.keys result ∨ (imported ∈ asked ∧ ∃ why, answer imported = .refused why))

/-- Nobody asks for what is given, for what nobody imports, or twice for what can be had. -/
structure Sparing (asked : List String) : Prop where
  sought : ∀ name ∈ asked, Sought answer sources name ∧ name ∉ Keyed.keys sources
  once : ∀ name text, answer name = .found text → asked.count name ≤ 1

end

section

variable {answer : String → Answer} {sources sources' : Keyed Json} {g : Gathering}
  {asked asked' : List String}

theorem Sound.mem_iff (sound : Sound answer sources g asked)
    (all : ∀ name text, Reached answer sources name text →
      ∃ source, (name, source) ∈ g.sources ∧ textOf source = .ok text)
    (name : String) (source : Json) :
    (name, source) ∈ g.sources ↔ (name, source) ∈ sources ∨
      (name ∉ Keyed.keys sources ∧
        ∃ text, Reached answer sources name text ∧ source = sourceOf text) := by
  constructor
  · intro mem
    by_cases given : name ∈ Keyed.keys sources
    · -- a given name is there once, namely where it was given
      obtain ⟨added, whole⟩ := sound.given
      have distinct := sound.distinct
      rw [← whole, Keyed.keys, List.map_append, List.nodup_append] at distinct
      rw [← whole, List.mem_append] at mem
      obtain old | new := mem
      · exact .inl old
      · exact absurd rfl (distinct.2.2 name given name (List.mem_map_of_mem new))
    · obtain ⟨text, rfl, -⟩ := sound.added _ mem given
      obtain ⟨text', holds, reached⟩ := sound.reached _ mem
      obtain rfl : text = text' := Except.ok.inj ((textOf_sourceOf text).symm.trans holds)
      exact .inr ⟨given, text, reached, rfl⟩
  · rintro (mem | ⟨new, text, reached, rfl⟩)
    · exact sound.given.subset mem
    · obtain ⟨source, mem, holds⟩ := all name text reached
      obtain ⟨text', rfl, -⟩ := sound.added _ mem new
      obtain rfl : text' = text := Except.ok.inj ((textOf_sourceOf text').symm.trans holds)
      exact mem

theorem Consistent.closed (consistent : Consistent answer sources g asked)
    (done : g.pending = []) : Closed answer sources g.sources asked where
  given := consistent.given
  distinct := consistent.distinct
  mem_iff := consistent.toSound.mem_iff fun _ _ reached => consistent.mem_of_reached done reached
  imports name source text mem holds path mem' := by
    obtain waits | finished := consistent.looked _ mem
    · rw [done] at waits
      exact absurd waits List.not_mem_nil
    · exact finished text holds path mem'

theorem Sound.sparing (sound : Sound answer sources g asked) : Sparing answer sources asked :=
  ⟨sound.sought, sound.once⟩

/-- What can be reached does not depend on the order of what is given. -/
theorem Reached.perm (same : sources.Perm sources') {name text : String}
    (reached : Reached answer sources name text) : Reached answer sources' name text := by
  induction reached with
  | given mem holds => exact .given (same.mem_iff.mp mem) holds
  | imported _ mem named new found ih =>
    exact .imported ih mem named (fun mem => new ((same.map _).mem_iff.mpr mem)) found

theorem Nameable.perm (same : sources.Perm sources') (nameable : Nameable answer sources) :
    Nameable answer sources' := fun importer text reached =>
  nameable importer text (reached.perm same.symm)

theorem Closed.perm {result result' : Keyed Json} (same : sources.Perm sources')
    (closed : Closed answer sources result asked)
    (closed' : Closed answer sources' result' asked') : result.Perm result' := by
  refine (List.perm_ext_iff_of_nodup (.of_map _ closed.distinct) (.of_map _ closed'.distinct)).mpr ?_
  rintro ⟨name, source⟩
  have keys : name ∈ Keyed.keys sources ↔ name ∈ Keyed.keys sources' := (same.map _).mem_iff
  have reached (text : String) :
      Reached answer sources name text ↔ Reached answer sources' name text :=
    ⟨.perm same, .perm same.symm⟩
  rw [closed.mem_iff, closed'.mem_iff, same.mem_iff, keys]
  simp only [reached]

/-- **What is gathered if every import has a name, and if not.** -/
theorem gather_asking {names : List String}
    (few : ∀ name text, answer name = .found text → name ∈ names)
    (distinct : (Keyed.keys sources).Nodup)
    (texts : ∀ unit ∈ sources, ∃ text, textOf unit.2 = .ok text) :
    Acc (Follows (asking answer)) (.start sources, []) ∧
      ∃ asked, Sparing answer sources asked ∧
        ((Nameable answer sources ∧ ∃ result, Closed answer sources result asked ∧
            (gather (some (asking answer)) sources).run [] = (.ok result, asked)) ∨
          (¬Nameable answer sources ∧
            (gather (some (asking answer)) sources).run [] = (.error .invalidValue, asked))) := by
  have start := consistent_start answer distinct texts
  have ends := run_ends few start
  refine ⟨ends, (Gathering.run (asking answer) (.start sources) []).2, ?_⟩
  rw [run_gather]
  obtain ⟨g, result, done, consistent⟩ | ⟨result, unnamed, g, sound⟩ := run_outcome ends start
  · rw [result]
    exact ⟨consistent.sparing,
      .inl ⟨consistent.nameable done, g.sources, consistent.closed done, rfl⟩⟩
  · rw [result]
    exact ⟨sound.sparing, .inr ⟨unnamed, rfl⟩⟩

/-- **The given units and all that can be reached from them are gathered, and nothing else**, by
somebody who knows finitely many names. This ends; it asks for no given unit, and for what can be
had only once; and the order in which the units are given has no part in it. If some import has no
name, then that is the failure. -/
theorem gather_reached {names : List String}
    (few : ∀ name text, answer name = .found text → name ∈ names)
    (distinct : (Keyed.keys sources).Nodup)
    (texts : ∀ unit ∈ sources, ∃ text, textOf unit.2 = .ok text) :
    Acc (Follows (asking answer)) (.start sources, []) ∧
      ∃ asked, Sparing answer sources asked ∧
        (Nameable answer sources → ∃ result,
          (gather (some (asking answer)) sources).run [] = (.ok result, asked) ∧
          Closed answer sources result asked ∧
          ∀ sources', sources.Perm sources' → ∃ result' asked',
            (gather (some (asking answer)) sources').run [] = (.ok result', asked') ∧
            result.Perm result') ∧
        (¬Nameable answer sources →
          (gather (some (asking answer)) sources).run [] = (.error .invalidValue, asked)) := by
  obtain ⟨ends, asked, sparing, outcome⟩ := gather_asking few distinct texts
  refine ⟨ends, asked, sparing, fun nameable => ?_, fun unnamed => ?_⟩
  · obtain ⟨-, result, closed, ran⟩ | ⟨unnamed, -⟩ := outcome
    · refine ⟨result, ran, closed, fun sources' same => ?_⟩
      have distinct' : (Keyed.keys sources').Nodup := (same.map _).nodup_iff.mp distinct
      have texts' : ∀ unit ∈ sources', ∃ text, textOf unit.2 = .ok text := fun unit mem =>
        texts unit (same.mem_iff.mpr mem)
      obtain ⟨-, asked', -, ⟨-, result', closed', ran'⟩ | ⟨unnamed, -⟩⟩ :=
        gather_asking few distinct' texts'
      · exact ⟨result', asked', ran', closed.perm same closed'⟩
      · exact absurd (nameable.perm same) unnamed
    · exact absurd nameable unnamed
  · obtain ⟨nameable, -⟩ | ⟨-, ran⟩ := outcome
    · exact absurd nameable unnamed
    · exact ran

end

/-- A path that does not start from its unit is a name by itself. -/
theorem unitName_of_absolute {path : String} (absolute : isRelative path.toList = false)
    (importer : String) : unitName importer path = .ok path := by
  rw [unitName, absolute]
  rfl

def circle : Keyed Json := [("Main.sol", sourceOf "import \"A.sol\";")]

/-- The library imports the program, itself, and something that nobody knows. -/
def circleAnswer (name : String) : Answer :=
  if name = "A.sol" then .found "import \"Main.sol\";\nimport \"A.sol\";\nimport \"B.sol\";"
  else .refused ""

theorem circle_named (importer : String) :
    ∀ path ∈ ["Main.sol", "A.sol", "B.sol"], unitName importer path = .ok path := by
  intro path mem
  refine unitName_of_absolute ?_ importer
  revert path
  decide

/-- Units that import each other and themselves are gathered once. -/
theorem gather_reached_circle :
    (∀ name text, circleAnswer name = .found text → name ∈ ["A.sol"]) ∧
      (Keyed.keys circle).Nodup ∧ (∀ unit ∈ circle, ∃ text, textOf unit.2 = .ok text) ∧
      Nameable circleAnswer circle ∧
      ∃ result asked, (gather (some (asking circleAnswer)) circle).run [] = (.ok result, asked) ∧
        Closed circleAnswer circle result asked := by
  have few : ∀ name text, circleAnswer name = .found text → name ∈ ["A.sol"] := by
    intro name text found
    unfold circleAnswer at found
    split at found
    · exact List.mem_singleton.mpr ‹_›
    · cases found
  have distinct : (Keyed.keys circle).Nodup := by decide
  have texts : ∀ unit ∈ circle, ∃ text, textOf unit.2 = .ok text := by
    intro unit mem
    obtain rfl := List.mem_singleton.mp mem
    exact ⟨_, rfl⟩
  have paths : ∀ name text, Reached circleAnswer circle name text →
      ∀ path ∈ pathsOf text, path ∈ ["Main.sol", "A.sol", "B.sol"] := by
    intro name text reached
    cases reached with
    | given mem holds =>
      obtain ⟨rfl, rfl⟩ := Prod.mk.inj (List.mem_singleton.mp mem)
      obtain rfl := Except.ok.inj holds
      decide +kernel
    | imported _ _ _ _ found =>
      unfold circleAnswer at found
      split at found
      · obtain rfl := Answer.found.inj found
        decide +kernel
      · cases found
  have nameable : Nameable circleAnswer circle := fun importer text reached path mem =>
    ⟨path, circle_named importer path (paths importer text reached path mem)⟩
  obtain ⟨-, asked, -, done, -⟩ := gather_reached few distinct texts
  obtain ⟨result, ran, closed, -⟩ := done nameable
  exact ⟨few, distinct, texts, nameable, result, asked, ran, closed⟩

/-- A unit whose address has a bracket that is not closed. -/
def astray : Keyed Json := [("https://[::1/A.sol", sourceOf "import \"./B.sol\";")]

/-- **From a unit without a proper address no path can be read**, and nothing is gathered. -/
theorem gather_astray :
    (gather (some (asking fun _ => .refused "")) astray).run [] = (.error .invalidValue, []) := by
  have paths : pathsOf "import \"./B.sol\";" = ["./B.sol"] := by decide +kernel
  have unnamed : unitName "https://[::1/A.sol" "./B.sol" = .error .invalidValue := by
    obtain ⟨name, named⟩ | invalid := unitName_ok_or_invalid "https://[::1/A.sol" "./B.sol"
    · have none : (unitName "https://[::1/A.sol" "./B.sol").toOption = none := by decide +kernel
      rw [named] at none
      cases none
    · exact invalid
  have visit : (Gathering.visit (asking fun _ => .refused "")
      { Gathering.start astray with pending := [] }
      ("https://[::1/A.sol", sourceOf "import \"./B.sol\";")).run [] =
        (.error .invalidValue, []) := by
    rw [Gathering.visit, Act.run_bind_ok (by rw [textOf_sourceOf]; rfl), paths, Gathering.wantAll,
      Act.run_bind_error (by rw [unnamed]; rfl)]
  have waiting : (Gathering.start astray).pending =
      [("https://[::1/A.sol", sourceOf "import \"./B.sol\";")] := rfl
  -- the first step fails, so that there is none
  have ends : Acc (Follows (asking fun _ => .refused "")) (.start astray, []) := by
    refine .intro _ ?_
    rintro next ⟨unit, pending, waiting', visited⟩
    obtain ⟨rfl, rfl⟩ := List.cons.inj (waiting'.symm.trans waiting)
    rw [visit] at visited
    cases visited
  rw [run_gather, Gathering.run_failed ends waiting visit]
  rfl

end SolidityRepl.Import
