import SolidityRepl.World.Folder

/-!
# Following paths

A path is followed from folder to folder. At its end there is a file or there is not, unless a name
on the way is longer than any that can be looked for.
-/

namespace SolidityRepl.Folder

variable {T : Type}

/-- Some steps lead from a folder to another one. The folders above are those that steps back lead
to, the nearest one first. -/
inductive Reaches :
    List (Folder T) → Folder T → List String → List (Folder T) → Folder T → Prop
  | rest {above : List (Folder T)} {here : Folder T} : Reaches above here [] above here
  | back {above above' : List (Folder T)} {here up there : Folder T} {steps : List String}
      (more : Reaches above up steps above' there) :
      Reaches (up :: above) here (".." :: steps) above' there
  | into {above above' : List (Folder T)} {here inner there : Folder T} {name : String}
      {steps : List String} (forward : name ≠ "..") (short : isTooLong name = false)
      (found : here.find? name = some (.folder inner))
      (more : Reaches (here :: above) inner steps above' there) :
      Reaches above here (name :: steps) above' there

/-- A file stands at the end of a path, under its last name. -/
def Shows (above : List (Folder T)) (here : Folder T) (steps : List String) (content : Content)
    (readAt : T) : Prop :=
  ∃ before name above' there, steps = before ++ [name] ∧ Reaches above here before above' there ∧
    name ≠ ".." ∧ isTooLong name = false ∧ there.find? name = some (.file content readAt)

/-- A path leads to a folder and then on by a name that is too long. -/
def Chokes (above : List (Folder T)) (here : Folder T) (steps : List String) : Prop :=
  ∃ before name after above' there, steps = before ++ name :: after ∧
    Reaches above here before above' there ∧ name ≠ ".." ∧ isTooLong name = true

section

variable {above above' : List (Folder T)} {here there up inner : Folder T} {name : String}
  {before steps : List String} {content : Content} {readAt : T}

theorem Shows.back (shows : Shows above up steps content readAt) :
    Shows (up :: above) here (".." :: steps) content readAt := by
  obtain ⟨before, name, above', there, rfl, reaches, last⟩ := shows
  exact ⟨".." :: before, name, above', there, rfl, .back reaches, last⟩

theorem Shows.into (forward : name ≠ "..") (short : isTooLong name = false)
    (found : here.find? name = some (.folder inner))
    (shows : Shows (here :: above) inner steps content readAt) :
    Shows above here (name :: steps) content readAt := by
  obtain ⟨before, last, above', there, rfl, reaches, end'⟩ := shows
  exact ⟨name :: before, last, above', there, rfl, .into forward short found reaches, end'⟩

theorem Chokes.back (chokes : Chokes above up steps) : Chokes (up :: above) here (".." :: steps) := by
  obtain ⟨before, name, after, above', there, rfl, reaches, long⟩ := chokes
  exact ⟨".." :: before, name, after, above', there, rfl, .back reaches, long⟩

theorem Chokes.into (forward : name ≠ "..") (short : isTooLong name = false)
    (found : here.find? name = some (.folder inner)) (chokes : Chokes (here :: above) inner steps) :
    Chokes above here (name :: steps) := by
  obtain ⟨before, last, after, above', there, rfl, reaches, long⟩ := chokes
  exact ⟨name :: before, last, after, above', there, rfl, .into forward short found reaches, long⟩

theorem walk_back (up here : Folder T) (above : List (Folder T)) (steps : List String) :
    walk (up :: above) here (".." :: steps) = walk above up steps := rfl

theorem walk_long (forward : name ≠ "..") (long : isTooLong name = true) :
    walk above here (name :: steps) = .error .unreadablePath := by
  have other : ¬ (name == "..") = true := by simpa using forward
  rw [walk.eq_def]
  simp only [if_neg other, if_pos long]

theorem walk_missing (forward : name ≠ "..") (short : isTooLong name = false)
    (missing : here.find? name = none) : walk above here (name :: steps) = .ok none := by
  have other : ¬ (name == "..") = true := by simpa using forward
  rw [walk.eq_def]
  simp only [if_neg other, short, Bool.false_eq_true, if_false, missing]

theorem walk_into (forward : name ≠ "..") (short : isTooLong name = false)
    (found : here.find? name = some (.folder inner)) :
    walk above here (name :: steps) = walk (here :: above) inner steps := by
  have other : ¬ (name == "..") = true := by simpa using forward
  rw [walk.eq_def]
  simp only [if_neg other, short, Bool.false_eq_true, if_false, found]

theorem walk_file (forward : name ≠ "..") (short : isTooLong name = false)
    (found : here.find? name = some (.file content readAt)) :
    walk above here (name :: steps) =
      .ok (if steps.isEmpty then some (.file content readAt) else none) := by
  have other : ¬ (name == "..") = true := by simpa using forward
  rw [walk.eq_def]
  simp only [if_neg other, short, Bool.false_eq_true, if_false, found]

/-- A path goes on from where its first steps lead to. -/
theorem Reaches.walk_append (reaches : Reaches above here before above' there)
    (after : List String) : walk above here (before ++ after) = walk above' there after := by
  induction reaches with
  | rest => rfl
  | back _ ih =>
    rw [List.cons_append, walk_back, ih]
  | into forward short found _ ih =>
    rw [List.cons_append, walk_into forward short found, ih]

/-- What following a path comes to: a name that is too long, a file, a folder, or nothing. -/
theorem walk_cases (above : List (Folder T)) (here : Folder T) (steps : List String) :
    (walk above here steps = .error .unreadablePath ∧ Chokes above here steps) ∨
      ∃ entry, walk above here steps = .ok entry ∧
        ∀ content readAt, entry = some (.file content readAt) →
          Shows above here steps content readAt := by
  induction steps generalizing above here with
  | nil => exact .inr ⟨_, rfl, fun _ _ same => by cases same⟩
  | cons name steps ih =>
    by_cases back : name = ".."
    · subst back
      cases above with
      | nil => exact .inr ⟨none, rfl, fun _ _ same => by cases same⟩
      | cons up above =>
        rw [walk_back]
        obtain ⟨fails, chokes⟩ | ⟨entry, leads, shows⟩ := ih above up
        · exact .inl ⟨fails, chokes.back⟩
        · exact .inr ⟨entry, leads, fun content readAt same => (shows content readAt same).back⟩
    · cases long : isTooLong name with
      | true => exact .inl ⟨walk_long back long, [], name, steps, above, here, rfl, .rest, back, long⟩
      | false =>
        cases found : here.find? name with
        | none =>
          exact .inr ⟨none, walk_missing back long found, fun _ _ same => by cases same⟩
        | some entry =>
          cases entry with
          | folder inner =>
            rw [walk_into back long found]
            obtain ⟨fails, chokes⟩ | ⟨entry, leads, shows⟩ := ih (here :: above) inner
            · exact .inl ⟨fails, chokes.into back long found⟩
            · exact .inr ⟨entry, leads, fun content readAt same =>
                (shows content readAt same).into back long found⟩
          | file content readAt =>
            refine .inr ⟨_, walk_file back long found, fun c r same => ?_⟩
            split at same
            · rename_i last
              cases same
              rw [List.isEmpty_iff.mp last]
              exact ⟨[], name, above, here, rfl, .rest, back, long, found⟩
            · cases same

/-- **A path leads to a file** that stands in the folder before its last name. -/
theorem walk_eq_file_iff :
    walk above here steps = .ok (some (.file content readAt)) ↔
      Shows above here steps content readAt := by
  constructor
  · intro leads
    obtain ⟨fails, -⟩ | ⟨entry, leads', shows⟩ := walk_cases above here steps
    · rw [fails] at leads
      cases leads
    · rw [leads'] at leads
      exact shows content readAt (Except.ok.inj leads)
  · rintro ⟨before, name, above', there, rfl, reaches, forward, short, found⟩
    rw [reaches.walk_append, walk_file forward short found]
    rfl

/-- **A path cannot be followed** if and only if it leads to a folder and then on by a name that is
too long. -/
theorem walk_eq_error_iff {e : Failure} :
    walk above here steps = .error e ↔ e = .unreadablePath ∧ Chokes above here steps := by
  constructor
  · intro fails
    obtain ⟨fails', chokes⟩ | ⟨entry, leads, -⟩ := walk_cases above here steps
    · rw [fails'] at fails
      exact ⟨(Except.error.inj fails).symm, chokes⟩
    · rw [leads] at fails
      cases fails
  · rintro ⟨rfl, before, name, after, above', there, rfl, reaches, forward, long⟩
    rw [reaches.walk_append, walk_long forward long]

end

end SolidityRepl.Folder
