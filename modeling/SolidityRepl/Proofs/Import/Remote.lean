import SolidityRepl.Proofs.Import.Directive
import SolidityRepl.Proofs.Import.Gathering
import SolidityRepl.Proofs.Path

/-!
# Imports from the web

An address has two slashes behind its scheme, which start a comment. So no address is ever found in
a source, and nobody is asked for one unless some given unit is from the web itself.
-/

namespace SolidityRepl.Import

/-- An address has two slashes in a row. -/
theorem slashes_of_isRemote {name : String} (remote : isRemote name = true) :
    ∃ rest, name.toList = "https:".toList ++ '/' :: '/' :: rest := by
  obtain ⟨rest, cut⟩ := List.isPrefixOf_iff_prefix.mp remote
  exact ⟨rest, cut.symm⟩

/-- **A path without two slashes in a row leads to no address**, unless it starts from one. -/
theorem unitName_not_remote {importer path name : String} (near : isRemote importer = false)
    (plain : ¬['/', '/'] <:+: path.toList) (named : unitName importer path = .ok name) :
    isRemote name = false := by
  rw [← Bool.not_eq_true]
  intro remote
  obtain ⟨rest, cut⟩ := slashes_of_isRemote remote
  unfold unitName at named
  split at named
  · obtain rfl := Except.ok.inj named
    exact plain ⟨"https:".toList, rest, by rw [cut]; simp⟩
  · rw [near, if_neg Bool.false_ne_true] at named
    obtain rfl := Except.ok.inj named
    rw [String.toList_ofList] at cut
    exact Path.normalizedChars_ne _ (by decide) (by decide) cut

section

variable {answer : String → Answer} {sources : Keyed Json}

/-- Nothing on the web can be reached from units that are not from there. -/
theorem not_remote_of_reached (near : ∀ name ∈ Keyed.keys sources, isRemote name = false)
    {name text : String} (reached : Reached answer sources name text) : isRemote name = false := by
  induction reached with
  | given mem _ => exact near _ (List.mem_map_of_mem mem)
  | imported _ mem named _ _ ih => exact unitName_not_remote ih (no_slashes_of_mem_pathsOf mem) named

theorem not_remote_of_sought (near : ∀ name ∈ Keyed.keys sources, isRemote name = false)
    {name : String} (sought : Sought answer sources name) : isRemote name = false := by
  obtain ⟨importer, text, path, reached, mem, named⟩ := sought
  exact unitName_not_remote (not_remote_of_reached near reached) (no_slashes_of_mem_pathsOf mem) named

/-- If a gathering ends, with whatever result, what was asked for is imported somewhere. -/
theorem sought_of_gather (distinct : (Keyed.keys sources).Nodup)
    (texts : ∀ unit ∈ sources, ∃ text, textOf unit.2 = .ok text)
    (ends : Acc (Gathering.Follows (asking answer)) (.start sources, [])) {name : String}
    (mem : name ∈ ((gather (some (asking answer)) sources).run []).2) :
    Sought answer sources name := by
  rw [run_gather] at mem
  obtain ⟨g, -, -, consistent⟩ | ⟨-, -, g, sound⟩ :=
    run_outcome ends (consistent_start answer distinct texts)
  · exact (consistent.sought name mem).1
  · exact (sound.sought name mem).1

end

/-- **Directives are found exactly if there is no comment among them**; an address is never found,
since it has one inside; and nobody who gathers their imports to the end asks for an address. -/
theorem pathsOf_directives_iff {paths : List String} (plain : ∀ path ∈ paths, Plain path.toList) :
    let source := String.ofList (directives (paths.map String.toList))
    (pathsOf source = paths ↔ ¬Commented source.toList) ∧
      (∀ path ∈ pathsOf source, isRemote path = false) ∧
      ∀ unit answer, isRemote unit = false →
        Acc (Gathering.Follows (asking answer)) (.start [(unit, sourceOf source)], []) →
        ∀ name ∈ ((gather (some (asking answer)) [(unit, sourceOf source)]).run []).2,
          isRemote name = false := by
  intro source
  have plain' : ∀ path ∈ paths.map String.toList, Plain path := by
    intro path mem
    obtain ⟨text, listed, rfl⟩ := List.mem_map.mp mem
    exact plain text listed
  refine ⟨?_, fun path mem => ?_, fun unit answer near ends name mem => ?_⟩
  · rw [String.toList_ofList, ← pathsFrom_withoutComments_iff plain', pathsOf, String.toList_ofList]
    constructor
    · intro found
      have chars := congrArg (List.map String.toList) found
      simpa using chars
    · intro found
      rw [found, List.map_map]
      simp
  · rw [← Bool.not_eq_true]
    intro remote
    obtain ⟨rest, cut⟩ := slashes_of_isRemote remote
    exact no_slashes_of_mem_pathsOf mem ⟨"https:".toList, rest, by rw [cut]; simp⟩
  · have single : ∀ other ∈ [(unit, sourceOf source)], ∃ text, textOf other.2 = .ok text := by
      intro other mem
      obtain rfl := List.mem_singleton.mp mem
      exact ⟨source, rfl⟩
    have distinct : (Keyed.keys [(unit, sourceOf source)]).Nodup := List.nodup_singleton unit
    refine not_remote_of_sought ?_ (sought_of_gather distinct single ends mem)
    intro given mem
    obtain rfl := List.mem_singleton.mp mem
    exact near

/-- Two files whose paths have slashes, but never two in a row. -/
theorem pathsOf_directives_files :
    (∀ path ∈ ["./A.sol", "lib/B.sol"], Plain path.toList) ∧
      pathsOf (String.ofList (directives (["./A.sol", "lib/B.sol"].map String.toList))) =
        ["./A.sol", "lib/B.sol"] := by
  have plain : ∀ path ∈ ["./A.sol", "lib/B.sol"], Plain path.toList := by
    have quoteless {path : List Char} (all : (path.all fun c => !isQuote c) = true) :
        ∀ c ∈ path, isQuote c = false := by simpa using all
    intro path mem
    obtain rfl | rfl : path = "./A.sol" ∨ path = "lib/B.sol" := by simpa using mem
    · exact ⟨by decide, quoteless (by decide)⟩
    · exact ⟨by decide, quoteless (by decide)⟩
  refine ⟨plain, (pathsOf_directives_iff plain).1.mpr ?_⟩
  rw [String.toList_ofList]
  rintro (slashes | ⟨body, block⟩)
  · exact absurd slashes (by decide +kernel)
  · have star : '*' ∈ directives (["./A.sol", "lib/B.sol"].map String.toList) :=
      block.subset (by simp)
    exact absurd star (by decide +kernel)

/-- The rest of an address goes with its line, and what is left of it takes the next directive. -/
theorem pathsOf_address :
    pathsOf "import \"https://example.com/A.sol\";" = [] ∧
      pathsOf "import \"https://example.com/A.sol\";\nimport \"./B.sol\";" =
        ["https:\nimport "] := by
  decide +kernel

end SolidityRepl.Import
