import Mathlib.Data.List.Infix
import SolidityRepl.World.Folder

/-!
# Files in folders

What the changes of a folder do to its files. A change at a path adds what it adds there, making
folders adds no file, and a sweep only takes files away.

* `Holds`: a file of a folder, by the names on the way to it;
* `Sparser`: a folder with no file that another one does not hold;
* `place_eq_ok`: where paths lead, steps back included;
* `holds_updateIn`, `sweep_sparser`, `makeAll_sparser`: what changes add;
* `find?_put`, `find?_erase`: what the names of a changed folder stand for;
* `Clear`: a plain path on which no file is in the way.
-/

namespace SolidityRepl.Folder

variable {T : Type}

/-! ## Files -/

/-- A file of a folder, by the names on the way to it. Of several files with one name each
counts. -/
inductive Holds : Folder T → List String → Content → Prop
  | file {name : String} {content : Content} {readAt : T} {rest : Folder T} :
      Holds (.file name content readAt rest) [name] content
  | behindFile {name : String} {content : Content} {readAt : T} {rest : Folder T}
      {path : List String} {c : Content} (held : Holds rest path c) :
      Holds (.file name content readAt rest) path c
  | inside {name : String} {inner rest : Folder T} {path : List String} {c : Content}
      (held : Holds inner path c) : Holds (.folder name inner rest) (name :: path) c
  | behindFolder {name : String} {inner rest : Folder T} {path : List String} {c : Content}
      (held : Holds rest path c) : Holds (.folder name inner rest) path c

/-- No file that the other folder does not hold. -/
def Sparser (f g : Folder T) : Prop := ∀ path c, f.Holds path c → g.Holds path c

theorem Sparser.refl (f : Folder T) : Sparser f f := fun _ _ held => held

theorem Sparser.trans {f g h : Folder T} (first : Sparser f g) (second : Sparser g h) :
    Sparser f h := fun path c held => second path c (first path c held)

theorem holds_of_find?_file {f : Folder T} {name : String} {content : Content} {readAt : T}
    (found : f.find? name = some (.file content readAt)) : f.Holds [name] content := by
  induction f with
  | empty => cases found
  | file n c r rest ih =>
    rw [find?] at found
    split at found
    · rename_i same
      cases found
      exact same ▸ .file
    · exact .behindFile (ih found)
  | folder n inner rest _ ih =>
    rw [find?] at found
    split at found
    · cases found
    · exact .behindFolder (ih found)

theorem holds_of_find?_folder {f inner : Folder T} {name : String} {path : List String}
    {c : Content} (found : f.find? name = some (.folder inner)) (held : inner.Holds path c) :
    f.Holds (name :: path) c := by
  induction f with
  | empty => cases found
  | file n c r rest ih =>
    rw [find?] at found
    split at found
    · cases found
    · exact .behindFile (ih found)
  | folder n inner' rest _ ih =>
    rw [find?] at found
    split at found
    · rename_i same
      cases found
      exact same ▸ .inside held
    · exact .behindFolder (ih found)

/-! ## Changes of one folder -/

theorem erase_sparser (name : String) (f : Folder T) : Sparser (f.erase name) f := by
  induction f with
  | empty => exact .refl _
  | file n c r rest ih =>
    intro path content held
    rw [erase] at held
    split at held
    · exact .behindFile (ih path content held)
    · cases held with
      | file => exact .file
      | behindFile held => exact .behindFile (ih _ _ held)
  | folder n inner rest _ ih =>
    intro path content held
    rw [erase] at held
    split at held
    · exact .behindFolder (ih path content held)
    · cases held with
      | inside held => exact .inside held
      | behindFolder held => exact .behindFolder (ih _ _ held)

theorem holds_put_file {f : Folder T} {name : String} {content c : Content} {readAt : T}
    {path : List String} (held : (f.put name (.file content readAt)).Holds path c) :
    path = [name] ∧ c = content ∨ f.Holds path c := by
  cases held with
  | file => exact .inl ⟨rfl, rfl⟩
  | behindFile held => exact .inr (erase_sparser name f _ _ held)

theorem holds_put_folder {f inner : Folder T} {name : String} {c : Content} {path : List String}
    (held : (f.put name (.folder inner)).Holds path c) :
    (∃ rest, path = name :: rest ∧ inner.Holds rest c) ∨ f.Holds path c := by
  cases held with
  | inside held => exact .inl ⟨_, rfl, held⟩
  | behindFolder held => exact .inr (erase_sparser name f _ _ held)

/-- A sweep only takes files away. -/
theorem sweep_sparser (isExpired : T → Bool) (f : Folder T) : Sparser (f.sweep isExpired) f := by
  induction f with
  | empty => exact .refl _
  | file n c r rest ih =>
    intro path content held
    rw [sweep] at held
    split at held
    · exact .behindFile (ih path content held)
    · cases held with
      | file => exact .file
      | behindFile held => exact .behindFile (ih _ _ held)
  | folder n inner rest ihInner ih =>
    intro path content held
    cases inner with
    | empty => exact .behindFolder (ih path content held)
    | _ =>
      cases held with
      | inside held => exact .inside (ihInner _ _ held)
      | behindFolder held => exact .behindFolder (ih _ _ held)

/-- **What a change adds at a path is all that is added.** -/
theorem holds_updateIn {change : Folder T → Folder T} {Added : List String → Content → Prop}
    (adds : ∀ f path c, (change f).Holds path c → Added path c ∨ f.Holds path c)
    (spot : List String) {f : Folder T} {path : List String} {c : Content}
    (held : (f.updateIn change spot).Holds path c) :
    (∃ rest, path = spot ++ rest ∧ Added rest c) ∨ f.Holds path c := by
  induction spot generalizing f path with
  | nil =>
    obtain added | held := adds f path c held
    · exact .inl ⟨path, rfl, added⟩
    · exact .inr held
  | cons step spot ih =>
    rw [updateIn] at held
    split at held
    · rename_i inner found
      obtain ⟨rest, rfl, below⟩ | before := holds_put_folder held
      · obtain ⟨more, rfl, added⟩ | before := ih below
        · exact .inl ⟨more, rfl, added⟩
        · exact .inr (holds_of_find?_folder found before)
      · exact .inr before
    · exact .inr held

theorem updateIn_sparser {change : Folder T → Folder T} (sparser : ∀ f, Sparser (change f) f)
    (spot : List String) (f : Folder T) : Sparser (f.updateIn change spot) f := by
  intro path c held
  have known : (∃ rest, path = spot ++ rest ∧ False) ∨ f.Holds path c :=
    @holds_updateIn T change (fun _ _ => False)
      (fun f path c held => .inr (sparser f path c held)) spot f path c held
  obtain ⟨_, _, ⟨⟩⟩ | before := known
  exact before

/-! ## Where paths lead -/

/-- The names that steps lead to, steps back taken. `taken` are the names so far, the last one
first. -/
def lexical (taken : List String) : List String → List String
  | [] => taken.reverse
  | step :: rest =>
    if step == ".." then lexical taken.tail rest else lexical (step :: taken) rest

/-- Steps that do not lead back are names. -/
theorem lexical_append {names : List String} (down : ∀ name ∈ names, name ≠ "..")
    (steps : List String) {taken : List String} :
    lexical taken (steps ++ names) = lexical taken steps ++ names := by
  induction steps generalizing taken with
  | nil =>
    induction names generalizing taken with
    | nil => exact (List.append_nil _).symm
    | cons name names ih =>
      have forth : ¬ (name == "..") = true := fun back =>
        down name List.mem_cons_self (beq_iff_eq.mp back)
      have rest := @ih (fun n among => down n (List.mem_cons_of_mem name among)) (name :: taken)
      rw [List.nil_append] at rest ⊢
      rw [lexical.eq_2, if_neg forth, rest, lexical, lexical, List.reverse_cons, List.append_assoc]
      rfl
  | cons step steps ih =>
    rw [List.cons_append, lexical, lexical]
    split
    · exact ih
    · exact ih

/-- A folder below others, each under its name, and the first of them in the root. -/
def Leads (root : Folder T) : List (Folder T) → List String → Folder T → Prop
  | [], [], here => here = root
  | up :: above, name :: taken, here =>
    up.find? name = some (.folder here) ∧ Leads root above taken up
  | _, _, _ => False

def descend (f : Folder T) : List String → Option (Folder T)
  | [] => some f
  | name :: rest =>
    match f.find? name with
    | some (.folder inner) => descend inner rest
    | _ => none

theorem descend_cons {f here : Folder T} {name : String} {names : List String}
    (there : f.descend (name :: names) = some here) :
    ∃ inner, f.find? name = some (.folder inner) ∧ inner.descend names = some here := by
  rw [descend] at there
  cases known : f.find? name with
  | none =>
    rw [known] at there
    cases there
  | some entry =>
    rw [known] at there
    cases entry with
    | file c r => cases there
    | folder inner => exact ⟨inner, rfl, there⟩

theorem descend_concat {f up here : Folder T} {names : List String} {name : String}
    (before : f.descend names = some up) (found : up.find? name = some (.folder here)) :
    f.descend (names ++ [name]) = some here := by
  induction names generalizing f with
  | nil =>
    cases before
    rw [List.nil_append, descend, found]
    rfl
  | cons first names ih =>
    obtain ⟨inner, known, before⟩ := descend_cons before
    rw [List.cons_append, descend, known]
    exact ih before

theorem Leads.descend {root here : Folder T} {above : List (Folder T)} {taken : List String}
    (leads : Leads root above taken here) : root.descend taken.reverse = some here := by
  induction taken generalizing above here with
  | nil =>
    cases above with
    | nil =>
      obtain rfl : here = root := leads
      rfl
    | cons up above => cases leads
  | cons name taken ih =>
    cases above with
    | nil => cases leads
    | cons up above =>
      obtain ⟨found, leads⟩ := leads
      rw [List.reverse_cons]
      exact descend_concat (ih leads) found

theorem Leads.back {root here up : Folder T} {above : List (Folder T)} {taken : List String}
    (leads : Leads root (up :: above) taken here) : Leads root above taken.tail up := by
  cases taken with
  | nil => cases leads
  | cons name taken => exact leads.2

/-- A path that leads to a folder leads to the names that it leads to. -/
theorem place_eq_ok {root here found : Folder T} {above : List (Folder T)}
    {taken steps spot : List String} (leads : Leads root above taken here)
    (placed : place above taken here steps = .ok (spot, found)) :
    spot = lexical taken steps ∧ root.descend spot = some found := by
  induction steps generalizing above taken here with
  | nil =>
    cases placed
    exact ⟨rfl, leads.descend⟩
  | cons step rest ih =>
    unfold place at placed
    rw [lexical]
    by_cases back : (step == "..") = true
    · rw [if_pos back] at placed ⊢
      cases above with
      | nil =>
        cases taken with
        | nil => exact ih leads placed
        | cons name taken => cases leads
      | cons up above => exact ih leads.back placed
    · rw [if_neg back] at placed ⊢
      split at placed
      · cases placed
      · split at placed
        · cases placed
        · rename_i inner known
          have below : Leads root (here :: above) (step :: taken) inner := ⟨known, leads⟩
          exact ih below placed
        · cases placed

/-! ## Making folders -/

/-- Making a folder changes nothing, or puts an empty one where nothing is. -/
theorem make_eq_ok {root made : Folder T} {step : String} {before : List String}
    {r : Except Failure Unit} (makes : make root step before = .ok (made, r)) :
    made = root ∨ ∃ spot here, root.descend spot = some here ∧ here.find? step = none ∧
      made = root.updateIn (fun f => f.put step (.folder empty)) spot := by
  rw [make] at makes
  cases placed : place [] [] root before with
  | error e =>
    rw [placed] at makes
    cases makes
  | ok p =>
    obtain ⟨spot, here⟩ := p
    have top : Leads root [] [] root := rfl
    have there := (place_eq_ok top placed).2
    rw [placed] at makes
    have ends := Except.ok.inj makes
    dsimp only at ends
    split at ends
    · cases ends
      exact .inl rfl
    · split at ends
      · cases ends
        exact .inl rfl
      · split at ends
        · rename_i missing
          cases ends
          exact .inr ⟨spot, here, there, missing, rfl⟩
        · cases ends
          exact .inl rfl
        · cases ends
          exact .inl rfl

/-- What each making keeps is kept by making all folders of a path. -/
theorem makeAll_keeps (Keeps : Folder T → Prop)
    (each : ∀ f g step before r, Keeps f → make f step before = .ok (g, r) → Keeps g)
    (steps : List String) {f : Folder T} (kept : Keeps f) : Keeps (makeAll f steps).1 := by
  induction steps with
  | nil => exact kept
  | cons step before ih =>
    rw [makeAll]
    split
    · rename_i made makes
      exact each f made.1 step before.reverse made.2 kept makes
    · -- the folder before is made first
      split
      · rename_i before' made
        have kept' : Keeps before' := by
          rw [made] at ih
          exact ih
        split
        · rename_i last makes
          exact each before' last.1 step before.reverse last.2 kept' makes
        · exact kept'
      · exact ih
    · exact kept

theorem makeAll_sparser (steps : List String) (f : Folder T) : Sparser (makeAll f steps).1 f := by
  refine makeAll_keeps (Sparser · f) (fun g h step before r sparser makes => ?_) steps (.refl f)
  obtain rfl | ⟨spot, here, _, _, rfl⟩ := make_eq_ok makes
  · exact sparser
  · refine Sparser.trans (updateIn_sparser (fun k path c held => ?_) spot g) sparser
    obtain ⟨_, _, ⟨⟩⟩ | before := holds_put_folder held
    exact before

/-! ## Names of a changed folder -/

theorem find?_erase (f : Folder T) (name other : String) :
    (f.erase name).find? other = if name = other then none else f.find? other := by
  induction f with
  | empty =>
    rw [erase, find?]
    split <;> rfl
  | file n c r rest ih =>
    rw [erase, find?]
    by_cases same : n = name
    · subst same
      rw [if_pos rfl, ih]
      split <;> rfl
    · rw [if_neg same, find?, ih]
      by_cases found : n = other
      · rw [if_pos found, if_pos found, if_neg fun h => same (found.trans h.symm)]
      · rw [if_neg found, if_neg found]
  | folder n inner rest _ ih =>
    rw [erase, find?]
    by_cases same : n = name
    · subst same
      rw [if_pos rfl, ih]
      split <;> rfl
    · rw [if_neg same, find?, ih]
      by_cases found : n = other
      · rw [if_pos found, if_pos found, if_neg fun h => same (found.trans h.symm)]
      · rw [if_neg found, if_neg found]

theorem find?_put (f : Folder T) (name other : String) (entry : Entry T) :
    (f.put name entry).find? other = if name = other then some entry else f.find? other := by
  cases entry <;> rw [put, find?] <;> split <;> first | rfl | (rw [find?_erase, if_neg ‹_›])

/-! ## Plain paths -/

/-- A name that leads down and that a file system keeps. -/
def IsPlain (name : String) : Prop := name ≠ ".." ∧ isTooLong name = false

instance (name : String) : Decidable (IsPlain name) :=
  inferInstanceAs (Decidable (name ≠ ".." ∧ isTooLong name = false))

/-- No file stands in the way to a folder. -/
def Clear (f : Folder T) (names : List String) : Prop := ∀ path c, path <+: names → ¬ f.Holds path c

theorem Clear.sparser {f g : Folder T} {names : List String} (clear : Clear g names)
    (sparser : Sparser f g) : Clear f names :=
  fun path c front held => clear path c front (sparser path c held)

end SolidityRepl.Folder
