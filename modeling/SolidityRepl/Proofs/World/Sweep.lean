import SolidityRepl.Proofs.World.Sight

/-!
# Walks that sweep

A sweep walks through a folder from the top. In each folder on its way it throws the expired files
away, takes the folders away that are empty, and goes on into those that are left. A folder that
holds nothing but what is thrown away later stays, since the walk does not come back to it.
-/

namespace SolidityRepl

variable {T : Type}

namespace Entry

def unlinked (isExpired : T → Bool) : Entry T → Option (Entry T)
  | .file content readAt => if isExpired readAt then none else some (.file content readAt)
  | .folder inner => some (.folder inner)

def pruned : Entry T → Option (Entry T)
  | .folder .empty => none
  | entry => some entry

/-- Folders are changed. -/
def within (change : Folder T → Folder T) : Entry T → Option (Entry T)
  | .file content readAt => some (.file content readAt)
  | .folder inner => some (.folder (change inner))

def swept (isExpired : T → Bool) (entry : Entry T) : Option (Entry T) :=
  ((entry.unlinked isExpired).bind pruned).bind (within (Folder.sweep isExpired))

section

variable {isExpired : T → Bool} {content : Content} {readAt : T} {inner : Folder T}

theorem swept_expired (expired : isExpired readAt = true) :
    swept isExpired (.file content readAt) = none := by
  rw [swept, unlinked, if_pos expired]
  rfl

theorem swept_fresh (fresh : isExpired readAt = false) :
    swept isExpired (.file content readAt) = some (.file content readAt) := by
  rw [swept, unlinked, if_neg (Bool.eq_false_iff.mp fresh)]
  rfl

theorem swept_empty : swept isExpired (.folder .empty) = none := rfl

theorem swept_folder (holds : inner ≠ .empty) :
    swept isExpired (.folder inner) = some (.folder (inner.sweep isExpired)) := by
  cases inner with
  | empty => exact absurd rfl holds
  | _ => rfl

end

end Entry

namespace Folder

variable {f : Folder T} {name : String} {path : List String}

/-! ## Changing the entries of a folder -/

/-- A folder with one more entry in front, if there is one. -/
def attach (name : String) (entry : Option (Entry T)) (rest : Folder T) : Folder T :=
  match entry with
  | none => rest
  | some (.file content readAt) => file name content readAt rest
  | some (.folder inner) => folder name inner rest

/-- A folder whose entries are left out or replaced. -/
def edit (change : Entry T → Option (Entry T)) : Folder T → Folder T
  | empty => empty
  | file name content readAt rest => attach name (change (.file content readAt)) (edit change rest)
  | folder name inner rest => attach name (change (.folder inner)) (edit change rest)

theorem find?_attach (name other : String) (entry : Option (Entry T)) (rest : Folder T) :
    (attach name entry rest).find? other =
      if name = other then entry.or (rest.find? other) else rest.find? other := by
  cases entry with
  | none => exact (ite_self _).symm
  | some entry => cases entry <;> rfl

theorem edit_attach (change : Entry T → Option (Entry T)) (name : String)
    (entry : Option (Entry T)) (rest : Folder T) :
    (attach name entry rest).edit change = attach name (entry.bind change) (rest.edit change) := by
  cases entry with
  | none => rfl
  | some entry => cases entry <;> rfl

/-- **What a name stands for in a changed folder**, where no two entries share it. -/
theorem find?_edit (change : Entry T → Option (Entry T)) (distinct : f.Distinct)
    (name : String) : (f.edit change).find? name = (f.find? name).bind change := by
  induction f with
  | empty => rfl
  | file n c r rest ih =>
    rw [edit, find?_attach, ih distinct.2, find?]
    by_cases same : n = name
    · rw [if_pos same, if_pos same, ← same, distinct.1]
      exact Option.or_none
    · rw [if_neg same, if_neg same]
  | folder n inner rest _ ih =>
    rw [edit, find?_attach, ih distinct.2.2, find?]
    by_cases same : n = name
    · rw [if_pos same, if_pos same, ← same, distinct.1]
      exact Option.or_none
    · rw [if_neg same, if_neg same]

theorem edit_edit (first second : Entry T → Option (Entry T)) (f : Folder T) :
    (f.edit first).edit second = f.edit fun entry => (first entry).bind second := by
  induction f with
  | empty => rfl
  | file n c r rest ih => rw [edit, edit_attach, ih, edit]
  | folder n inner rest _ ih => rw [edit, edit_attach, ih, edit]

/-! ## The walk -/

/-- A sweep leaves of each entry what it leaves of it alone. -/
theorem sweep_eq_edit (isExpired : T → Bool) (f : Folder T) :
    f.sweep isExpired = f.edit (Entry.swept isExpired) := by
  induction f with
  | empty => rfl
  | file n c r rest ih =>
    rw [sweep, edit, ih, Entry.swept, Entry.unlinked]
    split <;> rfl
  | folder n inner rest _ ih =>
    rw [edit, ← ih]
    cases inner <;> rfl

/-- **One folder of a walk**: the expired files are thrown away, then the folders that are empty are
taken away, and then the walk goes on into each folder that is left. -/
theorem sweep_eq (isExpired : T → Bool) (f : Folder T) :
    f.sweep isExpired = ((f.edit (Entry.unlinked isExpired)).edit Entry.pruned).edit
      (Entry.within (sweep isExpired)) := by
  rw [edit_edit (Entry.unlinked isExpired) Entry.pruned, edit_edit, sweep_eq_edit]
  rfl

theorem find?_sweep (isExpired : T → Bool) (distinct : f.Distinct) (name : String) :
    (f.sweep isExpired).find? name = (f.find? name).bind (Entry.swept isExpired) := by
  rw [sweep_eq_edit, find?_edit _ distinct]

/-- What some names lead to goes: a file that has expired, or a folder that is empty and not the one
that the walk starts in. -/
inductive Goes (isExpired : T → Bool) (f : Folder T) (path : List String) : Prop
  | file {content : Content} {readAt : T} (seen : f.sight path = some (.file content readAt))
      (expired : isExpired readAt = true)
  | folder (below : path ≠ []) (hollow : f.descend path = some empty)

theorem goes_inner_iff {isExpired : T → Bool} {inner : Folder T} {rest : List String}
    (found : f.find? name = some (.folder inner)) (holds : inner ≠ empty) :
    f.Goes isExpired (name :: rest) ↔ inner.Goes isExpired rest := by
  constructor
  · rintro (⟨seen, expired⟩ | ⟨-, hollow⟩)
    · exact .file (sight_inner found ▸ seen) expired
    · rw [descend_inner found] at hollow
      refine .folder ?_ hollow
      rintro rfl
      exact holds (Option.some.inj hollow)
  · rintro (⟨seen, expired⟩ | ⟨-, hollow⟩)
    · exact .file ((sight_inner found).trans seen) expired
    · exact .folder (List.cons_ne_nil name rest) ((descend_inner found).trans hollow)

/-- **What goes is gone after a walk, and all else is as it was.** By induction on the names. -/
theorem sight_sweep (isExpired : T → Bool) (distinct : f.Distinct) :
    (f.Goes isExpired path → (f.sweep isExpired).sight path = none) ∧
      (¬ f.Goes isExpired path → (f.sweep isExpired).sight path = f.sight path) := by
  induction path generalizing f with
  | nil =>
    refine ⟨fun goes => ?_, fun _ => rfl⟩
    obtain ⟨seen, -⟩ | ⟨below, -⟩ := goes
    · cases seen
    · exact absurd rfl below
  | cons name rest ih =>
    have left := find?_sweep isExpired distinct name
    cases found : f.find? name with
    | none =>
      rw [found] at left
      rw [sight_none left, sight_none found]
      exact ⟨fun _ => rfl, fun _ => rfl⟩
    | some entry =>
      rw [found, Option.bind_some] at left
      cases entry with
      | file content readAt =>
        cases expired : isExpired readAt with
        | true =>
          rw [Entry.swept_expired expired] at left
          rw [sight_none left]
          refine ⟨fun _ => rfl, fun stays => ?_⟩
          cases rest with
          | nil => exact absurd (.file (sight_file found) expired) stays
          | cons next rest =>
            rw [sight_file found]
            rfl
        | false =>
          rw [Entry.swept_fresh expired] at left
          rw [sight_file left, sight_file found]
          refine ⟨fun goes => ?_, fun _ => rfl⟩
          obtain ⟨seen, expired'⟩ | ⟨-, hollow⟩ := goes
          · rw [sight_file found] at seen
            split at seen
            · cases seen
              exact nomatch expired.symm.trans expired'
            · cases seen
          · rw [descend, found] at hollow
            cases hollow
      | folder inner =>
        by_cases hollow : inner = empty
        · subst hollow
          rw [Entry.swept_empty] at left
          rw [sight_none left]
          refine ⟨fun _ => rfl, fun stays => ?_⟩
          cases rest with
          | nil =>
            exact absurd (.folder (List.cons_ne_nil name []) (descend_inner found)) stays
          | cons next rest =>
            rw [sight_inner found]
            rfl
        · rw [Entry.swept_folder hollow] at left
          rw [sight_inner left, sight_inner found, goes_inner_iff found hollow]
          exact ih (distinct_of_find? distinct found)

end Folder

end SolidityRepl
