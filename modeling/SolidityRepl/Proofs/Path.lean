import SolidityRepl.Path

namespace SolidityRepl.Path

/-- A step with something in it and no slash. -/
structure IsName (step : List Char) : Prop where
  some : step ≠ []
  slashless : '/' ∉ step

theorem isName_back : IsName back := ⟨by decide, by decide⟩

theorem slashless_of_mem_segments {path segment : List Char} (mem : segment ∈ segments path) :
    '/' ∉ segment := by
  unfold segments at mem
  induction path generalizing segment with
  | nil =>
    obtain rfl := List.mem_singleton.mp (by simpa using mem)
    exact List.not_mem_nil
  | cons c path ih =>
    rw [List.splitOn_cons_eq_if_modifyHead] at mem
    split at mem
    · obtain rfl | mem := List.mem_cons.mp mem
      · exact List.not_mem_nil
      · exact ih mem
    · rename_i other
      cases split : path.splitOn '/' with
      | nil => exact absurd split (List.splitOn_ne_nil _ _)
      | cons first more =>
        rw [split] at ih mem
        obtain rfl | mem := List.mem_cons.mp mem
        · rw [List.mem_cons, not_or]
          exact ⟨fun same => other (beq_iff_eq.mpr same.symm), ih List.mem_cons_self⟩
        · exact ih (List.mem_cons_of_mem _ mem)

theorem isName_of_isStep {path step : List Char}
    (mem : step ∈ (segments path).filter isStep) : IsName step := by
  obtain ⟨mem, leads⟩ := List.mem_filter.mp mem
  refine ⟨?_, slashless_of_mem_segments mem⟩
  rintro rfl
  exact absurd leads (by decide)

/-- One more step leaves names. -/
theorem isName_of_mem_advance {rooted : Bool} {taken : List (List Char)} {step : List Char}
    (names : ∀ name ∈ taken, IsName name) (named : IsName step) :
    ∀ name ∈ advance rooted taken step, IsName name := by
  unfold advance
  split
  · intro name mem
    obtain rfl | mem := List.mem_cons.mp mem
    · exact named
    · exact names name mem
  · split
    · split
      · exact fun _ mem => absurd mem List.not_mem_nil
      · intro name mem
        obtain rfl := List.mem_singleton.mp mem
        exact isName_back
    · rename_i last before
      split
      · intro name mem
        obtain rfl | mem := List.mem_cons.mp mem
        · exact isName_back
        · exact names name mem
      · exact fun name mem => names name (List.mem_cons_of_mem _ mem)

theorem isName_of_mem_foldl {rooted : Bool} {steps taken : List (List Char)}
    (names : ∀ name ∈ taken, IsName name) (named : ∀ step ∈ steps, IsName step) :
    ∀ name ∈ steps.foldl (advance rooted) taken, IsName name := by
  induction steps generalizing taken with
  | nil => exact names
  | cons step more ih =>
    exact ih (isName_of_mem_advance names (named step List.mem_cons_self))
      fun step' mem => named step' (List.mem_cons_of_mem _ mem)

theorem root_cases (path : List Char) :
    root path = [] ∨ root path = ['/'] ∨ root path = ['/', '/'] := by
  unfold root
  split
  · exact .inl rfl
  · exact .inr (.inr rfl)
  · exact .inr (.inl rfl)

/-- **A normal path is its slashes at the start, then names between slashes.** -/
theorem normalizedChars_cut (path : List Char) :
    normalizedChars path = ['.'] ∨ ∃ names : List (List Char), (∀ name ∈ names, IsName name) ∧
      normalizedChars path = root path ++ ['/'].intercalate names := by
  have names : ∀ name ∈ ((segments path).filter isStep).foldl (advance !(root path).isEmpty) [],
      IsName name :=
    isName_of_mem_foldl (fun _ mem => absurd mem List.not_mem_nil) fun _ => isName_of_isStep
  unfold normalizedChars
  dsimp only
  split
  · exact .inl rfl
  · exact .inr ⟨_, fun name mem => names name (List.mem_reverse.mp mem), rfl⟩

/-- **A normal path has no two slashes in a row but at its start.** -/
theorem normalizedChars_ne (path : List Char) {front rest : List Char} (some : front ≠ [])
    (slashless : '/' ∉ front) : normalizedChars path ≠ front ++ '/' :: '/' :: rest := by
  intro same
  obtain dot | ⟨names, named, cut⟩ := normalizedChars_cut path
  · rw [dot] at same
    have mem : '/' ∈ ['.'] := same ▸ List.mem_append_right _ List.mem_cons_self
    exact absurd mem (by decide)
  · rw [same] at cut
    obtain ⟨c, more, rfl⟩ := List.exists_cons_of_ne_nil some
    have first : c ≠ '/' := fun slash => slashless (slash ▸ List.mem_cons_self)
    obtain none | one | two := root_cases path
    · -- the names are what stands between the slashes, and one of them would be empty
      have full : names ≠ [] := by
        rintro rfl
        rw [none] at cut
        cases cut
      have split : names = (c :: more) :: [] :: rest.splitOn '/' := by
        rw [← List.splitOn_intercalate '/' (fun name mem => (named name mem).slashless) full]
        rw [none, List.nil_append] at cut
        rw [← cut, List.splitOn_append_cons_self_of_not_mem slashless,
          List.splitOn_cons_eq_if_modifyHead, if_pos (by decide)]
      have empty : IsName [] := named [] (split ▸ List.mem_cons_of_mem _ List.mem_cons_self)
      exact empty.some rfl
    · rw [one] at cut
      exact first (List.cons.inj cut).1
    · rw [two] at cut
      exact first (List.cons.inj cut).1

end SolidityRepl.Path
