import SolidityRepl.Proofs.World.Folder

/-!
# What some names lead to

Names lead from a folder to a file, to a folder, or to nothing. A folder and what can be seen of it
are not the same: entries have an order, and one behind another of its name is not seen.
-/

namespace SolidityRepl.Folder

variable {T : Type}

/-- A file or a folder that some names lead to. -/
inductive Sight (T : Type) where
  | file (content : Content) (readAt : T)
  | folder

/-- What some names lead to, if they lead to anything. -/
def sight (f : Folder T) : List String → Option (Sight T)
  | [] => some .folder
  | name :: rest =>
    match f.find? name with
    | some (.file content readAt) => if rest.isEmpty then some (.file content readAt) else none
    | some (.folder inner) => sight inner rest
    | none => none

/-- No two entries of a folder, or of one in it, have the same name. -/
def Distinct : Folder T → Prop
  | empty => True
  | file name _ _ rest => rest.find? name = none ∧ Distinct rest
  | folder name inner rest => rest.find? name = none ∧ Distinct inner ∧ Distinct rest

section

variable {f here inner : Folder T} {name : String} {rest spot path : List String}
  {content : Content} {readAt : T}

theorem sight_none (missing : f.find? name = none) : f.sight (name :: rest) = none := by
  rw [sight, missing]

theorem sight_file (found : f.find? name = some (.file content readAt)) :
    f.sight (name :: rest) = if rest.isEmpty then some (.file content readAt) else none := by
  rw [sight, found]

theorem sight_inner (found : f.find? name = some (.folder inner)) :
    f.sight (name :: rest) = inner.sight rest := by
  rw [sight, found]

theorem descend_inner (found : f.find? name = some (.folder inner)) :
    f.descend (name :: rest) = inner.descend rest := by
  rw [descend, found]

theorem distinct_of_find? (distinct : f.Distinct) (found : f.find? name = some (.folder inner)) :
    inner.Distinct := by
  induction f with
  | empty => cases found
  | file n c r rest ih =>
    rw [find?] at found
    split at found
    · cases found
    · exact ih distinct.2 found
  | folder n i rest _ ih =>
    rw [find?] at found
    split at found
    · cases found
      exact distinct.2.1
    · exact ih distinct.2.2 found

theorem distinct_of_descend (distinct : f.Distinct) (there : f.descend spot = some here) :
    here.Distinct := by
  induction spot generalizing f with
  | nil =>
    cases there
    exact distinct
  | cons name spot ih =>
    obtain ⟨inner, found, there⟩ := descend_cons there
    exact ih (distinct_of_find? distinct found) there

/-- Names after others lead on from where those lead to. -/
theorem sight_append (there : f.descend spot = some here) :
    f.sight (spot ++ rest) = here.sight rest := by
  induction spot generalizing f with
  | nil =>
    cases there
    rfl
  | cons name spot ih =>
    obtain ⟨inner, found, there⟩ := descend_cons there
    rw [List.cons_append, sight_inner found]
    exact ih there

theorem descend_updateIn {change : Folder T → Folder T} (there : f.descend spot = some here) :
    (f.updateIn change spot).descend spot = some (change here) := by
  induction spot generalizing f with
  | nil =>
    cases there
    rfl
  | cons name spot ih =>
    obtain ⟨inner, known, there⟩ := descend_cons there
    rw [updateIn, known]
    dsimp only
    rw [descend, find?_put, if_pos rfl]
    exact ih there

/-- **Below a path, a change is seen as it is.** -/
theorem sight_below (change : Folder T → Folder T) (there : f.descend spot = some here) :
    (f.updateIn change spot).sight (spot ++ rest) = (change here).sight rest :=
  sight_append (descend_updateIn there)

/-- **Beside a path, nothing is seen of a change.** -/
theorem sight_beside (change : Folder T → Folder T) (outside : ¬ spot <+: path) (f : Folder T) :
    (f.updateIn change spot).sight path = f.sight path := by
  induction spot generalizing f path with
  | nil => exact absurd List.nil_prefix outside
  | cons step spot ih =>
    rw [updateIn]
    split
    · rename_i inner found
      cases path with
      | nil => rfl
      | cons name rest =>
        rw [sight, sight, find?_put]
        by_cases same : step = name
        · subst same
          have below : ¬ spot <+: rest := fun starts =>
            outside (List.cons_prefix_cons.mpr ⟨rfl, starts⟩)
          rw [if_pos rfl, found]
          exact ih below inner
        · rw [if_neg same]
    · rfl

/-! ## Files without their times -/

/-- The content of the file that some names lead to. -/
def fileAt? (f : Folder T) : List String → Option Content
  | [] => none
  | name :: rest =>
    match f.find? name with
    | some (.file content _) => if rest.isEmpty then some content else none
    | some (.folder inner) => fileAt? inner rest
    | none => none

def Sight.content? : Sight T → Option Content
  | .file content _ => some content
  | .folder => none

theorem fileAt?_eq_sight (f : Folder T) (path : List String) :
    f.fileAt? path = (f.sight path).bind Sight.content? := by
  induction path generalizing f with
  | nil => rfl
  | cons name rest ih =>
    rw [fileAt?, sight]
    cases f.find? name with
    | none => rfl
    | some entry =>
      cases entry with
      | file content readAt => cases rest <;> rfl
      | folder inner => exact ih inner

theorem holds_of_fileAt? {f : Folder T} {path : List String} {c : Content}
    (file : f.fileAt? path = some c) : f.Holds path c := by
  induction path generalizing f with
  | nil => cases file
  | cons name rest ih =>
    rw [fileAt?] at file
    split at file
    · rename_i found
      split at file
      · rename_i last
        cases file
        rw [List.isEmpty_iff.mp last]
        exact holds_of_find?_file found
      · cases file
    · rename_i found
      exact holds_of_find?_folder found (ih file)
    · cases file

/-- **A change at a path leaves the files alone that do not lie below it.** -/
theorem fileAt?_updateIn (change : Folder T → Folder T) (outside : ¬ spot <+: path)
    (f : Folder T) : (f.updateIn change spot).fileAt? path = f.fileAt? path := by
  rw [fileAt?_eq_sight, sight_beside change outside, ← fileAt?_eq_sight]

/-- A change that leaves the files of the folder at a path alone leaves all files alone. -/
theorem fileAt?_updateIn_same {change : Folder T → Folder T} (there : f.descend spot = some here)
    (same : ∀ path, (change here).fileAt? path = here.fileAt? path) (path : List String) :
    (f.updateIn change spot).fileAt? path = f.fileAt? path := by
  by_cases inside : spot <+: path
  · obtain ⟨rest, rfl⟩ := inside
    rw [fileAt?_eq_sight, sight_below change there, ← fileAt?_eq_sight, same, fileAt?_eq_sight,
      fileAt?_eq_sight, sight_append there]
  · exact fileAt?_updateIn change inside f

/-- **Making folders leaves all files alone.** -/
theorem fileAt?_makeAll (steps path : List String) (f : Folder T) :
    (makeAll f steps).1.fileAt? path = f.fileAt? path := by
  refine makeAll_keeps (fun g => g.fileAt? path = f.fileAt? path)
    (fun g h step before r same makes => ?_) steps rfl
  obtain rfl | ⟨spot, here, there, missing, rfl⟩ := make_eq_ok makes
  · exact same
  · rw [← same]
    refine fileAt?_updateIn_same there (fun path => ?_) path
    cases path with
    | nil => rfl
    | cons name rest =>
      rw [fileAt?, fileAt?, find?_put]
      by_cases new : step = name
      · subst new
        rw [if_pos rfl, missing]
        cases rest <;> rfl
      · rw [if_neg new]

end

end SolidityRepl.Folder
