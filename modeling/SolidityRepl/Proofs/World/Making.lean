import SolidityRepl.Proofs.World.Sight
import SolidityRepl.Proofs.World.Walk

/-!
# Making the folders of a path

Whether the folders of a path can be made depends on the files on its way and on nothing else: what
is missing is made. So a folder from which files were taken away is as good as before.

* `way`, `Lands`, `place_lands`: the names that a path goes through, and how far it leads;
* `IsPassable`, `makeAll_ok_iff`: where the folders of a path can be made;
* `place_makeAll`: they are there then;
* `walk_of_walk`: a file is found where one is found in a folder with fewer files.
-/

namespace SolidityRepl.Folder

variable {T : Type} {f g here up inner root : Folder T} {above : List (Folder T)}
  {step name : String} {taken steps before rest path spot : List String} {content : Content}
  {readAt : T}

/-! ## What is seen on the way to a folder -/

theorem sight_of_descend (there : f.descend path = some here) : f.sight path = some .folder := by
  rw [← List.append_nil path, sight_append there]
  rfl

theorem fileAt?_of_folder (seen : f.sight path = some .folder) : f.fileAt? path = none := by
  rw [fileAt?_eq_sight, seen]
  rfl

theorem find?_of_sight (seen : here.sight [name] = some .folder) :
    ∃ inner, here.find? name = some (.folder inner) := by
  cases found : here.find? name with
  | none =>
    rw [sight_none found] at seen
    cases seen
  | some entry =>
    cases entry with
    | file content readAt =>
      rw [sight_file found] at seen
      cases seen
    | folder inner => exact ⟨inner, rfl⟩

/-- What leads to a folder leads through folders. -/
theorem sight_dropLast (seen : f.sight path = some .folder) :
    f.sight path.dropLast = some .folder := by
  induction path generalizing f with
  | nil => rfl
  | cons name rest ih =>
    cases rest with
    | nil => rfl
    | cons next rest =>
      rw [List.dropLast_cons_cons]
      cases found : f.find? name with
      | none =>
        rw [sight_none found] at seen
        cases seen
      | some entry =>
        cases entry with
        | file content readAt =>
          rw [sight_file found] at seen
          cases seen
        | folder inner =>
          rw [sight_inner found] at seen ⊢
          exact ih seen

/-- A new name hides nothing. -/
theorem sight_put_new {s : Sight T} (there : f.descend spot = some here)
    (missing : here.find? step = none) (seen : f.sight path = some s) :
    (f.updateIn (fun f => f.put step (.folder empty)) spot).sight path = some s := by
  by_cases inside : spot <+: path
  · obtain ⟨rest, rfl⟩ := inside
    rw [sight_append there] at seen
    rw [sight_below _ there]
    cases rest with
    | nil => exact seen
    | cons name rest =>
      by_cases new : step = name
      · subst new
        rw [sight_none missing] at seen
        cases seen
      · rw [sight, find?_put, if_neg new]
        exact seen
  · rw [sight_beside _ inside, seen]

/-! ## Where a path leads -/

theorem place_long (forward : step ≠ "..") (long : isTooLong step = true) :
    place above taken here (step :: rest) = .error .unreadable := by
  have other : ¬ (step == "..") = true := fun back => forward (beq_iff_eq.mp back)
  rw [place.eq_def]
  simp only [if_neg other, if_pos long]

theorem place_missing (forward : step ≠ "..") (short : isTooLong step = false)
    (missing : here.find? step = none) :
    place above taken here (step :: rest) = .error .missing := by
  have other : ¬ (step == "..") = true := fun back => forward (beq_iff_eq.mp back)
  rw [place.eq_def]
  simp only [if_neg other, short, Bool.false_eq_true, if_false, missing]

theorem place_into (forward : step ≠ "..") (short : isTooLong step = false)
    (found : here.find? step = some (.folder inner)) :
    place above taken here (step :: rest) = place (here :: above) (step :: taken) inner rest := by
  have other : ¬ (step == "..") = true := fun back => forward (beq_iff_eq.mp back)
  rw [place.eq_def]
  simp only [if_neg other, short, Bool.false_eq_true, if_false, found]

theorem place_blocked (forward : step ≠ "..") (short : isTooLong step = false)
    (found : here.find? step = some (.file content readAt)) :
    place above taken here (step :: rest) = .error .blocked := by
  have other : ¬ (step == "..") = true := fun back => forward (beq_iff_eq.mp back)
  rw [place.eq_def]
  simp only [if_neg other, short, Bool.false_eq_true, if_false, found]

/-- The names that a path goes through, by all of its steps one after the other. -/
def way (taken : List String) : List String → List (List String)
  | [] => [taken.reverse]
  | step :: rest => taken.reverse :: way (if step == ".." then taken.tail else step :: taken) rest

theorem reverse_mem_way (taken steps : List String) : taken.reverse ∈ way taken steps := by
  cases steps <;> exact List.mem_cons_self

theorem lexical_concat (taken steps : List String) (step : String) :
    lexical taken (steps ++ [step]) =
      if step == ".." then (lexical taken steps).dropLast else lexical taken steps ++ [step] := by
  induction steps generalizing taken with
  | nil =>
    rw [List.nil_append, lexical, lexical, lexical, lexical, List.dropLast_reverse,
      List.reverse_cons]
  | cons first steps ih =>
    rw [List.cons_append, lexical, lexical]
    split
    · exact ih taken.tail
    · exact ih (first :: taken)

theorem way_concat (taken steps : List String) (step : String) :
    way taken (steps ++ [step]) = way taken steps ++ [lexical taken (steps ++ [step])] := by
  induction steps generalizing taken with
  | nil =>
    rw [List.nil_append, way, way, way, lexical, lexical, lexical]
    split <;> rfl
  | cons first steps ih =>
    rw [List.cons_append, way, way, ih, lexical]
    split <;> rfl

/-- Every step leads back or is a name that a file system keeps. -/
def Keepable (steps : List String) : Prop := ∀ step ∈ steps, step = ".." ∨ isTooLong step = false

/-- How far a path leads that goes through some names. -/
inductive Lands (root : Folder T) (points : List (List String)) (steps : List String) :
    Except Lost (List String × Folder T) → Prop
  | ok {p : List String × Folder T} (keepable : Keepable steps)
      (folders : ∀ names ∈ points, root.sight names = some .folder) :
      Lands root points steps (.ok p)
  | missing {names : List String} (among : names ∈ points) (seen : root.sight names = none) :
      Lands root points steps (.error .missing)
  | unreadable (long : ¬ Keepable steps) : Lands root points steps (.error .unreadable)
  | blocked {names : List String} {content : Content} (among : names ∈ points)
      (file : root.fileAt? names = some content) : Lands root points steps (.error .blocked)

theorem Lands.cons {points : List (List String)} {r : Except Lost (List String × Folder T)}
    (lands : Lands root points rest r) (kept : step = ".." ∨ isTooLong step = false)
    (seen : root.sight path = some .folder) : Lands root (path :: points) (step :: rest) r := by
  cases lands with
  | ok keepable folders =>
    exact .ok (List.forall_mem_cons.mpr ⟨kept, keepable⟩) (List.forall_mem_cons.mpr ⟨seen, folders⟩)
  | missing among seen => exact .missing (List.mem_cons_of_mem path among) seen
  | unreadable long => exact .unreadable fun all => long (List.forall_mem_cons.mp all).2
  | blocked among file => exact .blocked (List.mem_cons_of_mem path among) file

/-- **How far a path leads**, by induction on its steps. -/
theorem place_lands (leads : Leads root above taken here) :
    Lands root (way taken steps) steps (place above taken here steps) := by
  induction steps generalizing above taken here with
  | nil => exact .ok nofun (List.forall_mem_singleton.mpr (sight_of_descend leads.descend))
  | cons step rest ih =>
    have seen := sight_of_descend leads.descend
    rw [way]
    by_cases back : step = ".."
    · subst back
      rw [if_pos (beq_self_eq_true _)]
      refine Lands.cons ?_ (.inl rfl) seen
      cases above with
      | nil =>
        cases taken with
        | nil => exact ih leads
        | cons name taken => cases leads
      | cons up above => exact ih leads.back
    · rw [if_neg fun same => back (beq_iff_eq.mp same)]
      -- the names that the step leads to are the first ones of the way from there
      have next := reverse_mem_way (step :: taken) rest
      have there : root.sight (step :: taken).reverse = here.sight [step] := by
        rw [List.reverse_cons, sight_append leads.descend]
      cases short : isTooLong step with
      | true =>
        rw [place_long back short]
        refine .unreadable fun all => ?_
        exact nomatch ((List.forall_mem_cons.mp all).1.resolve_left back).symm.trans short
      | false =>
        cases found : here.find? step with
        | none =>
          rw [place_missing back short found]
          exact .missing (List.mem_cons_of_mem _ next) (there.trans (sight_none found))
        | some entry =>
          cases entry with
          | folder inner =>
            rw [place_into back short found]
            have below : Leads root (here :: above) (step :: taken) inner := ⟨found, leads⟩
            exact (ih below).cons (.inr short) seen
          | file content readAt =>
            rw [place_blocked back short found]
            have file : root.fileAt? (step :: taken).reverse = some content := by
              rw [fileAt?_eq_sight, there, sight_file found]
              rfl
            exact .blocked (List.mem_cons_of_mem _ next) file

theorem place_ok_iff : (∃ p, place [] [] f steps = .ok p) ↔
    Keepable steps ∧ ∀ names ∈ way [] steps, f.sight names = some .folder := by
  have top : Leads f [] [] f := rfl
  have lands := @place_lands T f f [] [] steps top
  constructor
  · rintro ⟨p, placed⟩
    rw [placed] at lands
    cases lands with
    | ok keepable folders => exact ⟨keepable, folders⟩
  · rintro ⟨keepable, folders⟩
    generalize place [] [] f steps = r at lands
    cases lands with
    | ok => exact ⟨_, rfl⟩
    | missing among seen => exact nomatch seen.symm.trans (folders _ among)
    | unreadable long => exact absurd keepable long
    | blocked among file => exact nomatch file.symm.trans (fileAt?_of_folder (folders _ among))

/-! ## Making the folders of a path -/

/-- No file stands on the way of a path, and each name on it can be kept. -/
structure IsPassable (f : Folder T) (steps : List String) : Prop where
  keepable : Keepable steps
  free : ∀ names ∈ way [] steps, f.fileAt? names = none

/-- A path stays passable when files are taken away. -/
theorem IsPassable.fewer (passable : f.IsPassable steps)
    (fewer : ∀ path content, g.fileAt? path = some content → f.fileAt? path = some content) :
    g.IsPassable steps where
  keepable := passable.keepable
  free names among := by
    cases file : g.fileAt? names with
    | none => rfl
    | some content =>
      exact nomatch (fewer names content file).symm.trans (passable.free names among)

theorem isPassable_concat_iff : f.IsPassable (before ++ [step]) ↔ f.IsPassable before ∧
    (step = ".." ∨ isTooLong step = false) ∧ f.fileAt? (lexical [] (before ++ [step])) = none := by
  constructor
  · rintro ⟨keepable, free⟩
    obtain ⟨first, last⟩ := List.forall_mem_append.mp keepable
    rw [way_concat] at free
    obtain ⟨first', last'⟩ := List.forall_mem_append.mp free
    exact ⟨⟨first, first'⟩, last step List.mem_cons_self, last' _ List.mem_cons_self⟩
  · rintro ⟨⟨keepable, free⟩, kept, last⟩
    refine ⟨List.forall_mem_append.mpr ⟨keepable, List.forall_mem_singleton.mpr kept⟩, ?_⟩
    rw [way_concat]
    exact List.forall_mem_append.mpr ⟨free, List.forall_mem_singleton.mpr last⟩

/-- A path that leads to a folder is passable. -/
theorem isPassable_of_place (placed : ∃ p, place [] [] f steps = .ok p) : f.IsPassable steps :=
  have ⟨keepable, folders⟩ := place_ok_iff.mp placed
  ⟨keepable, fun names among => fileAt?_of_folder (folders names among)⟩

/-- Names that do not lead back go through the folders on the way to the last of them. -/
theorem prefix_of_mem_way {names : List String} (forward : ∀ step ∈ steps, step ≠ "..")
    (among : names ∈ way taken steps) :
    ∃ front, front <+: steps ∧ names = taken.reverse ++ front := by
  induction steps generalizing taken with
  | nil => exact ⟨[], List.nil_prefix, (List.append_nil _).symm ▸ List.mem_singleton.mp among⟩
  | cons step rest ih =>
    obtain ⟨forth, forward⟩ := List.forall_mem_cons.mp forward
    rw [way, if_neg fun back => forth (beq_iff_eq.mp back)] at among
    obtain rfl | among := List.mem_cons.mp among
    · exact ⟨[], List.nil_prefix, (List.append_nil _).symm⟩
    · obtain ⟨front, starts, rfl⟩ := ih forward among
      refine ⟨step :: front, List.cons_prefix_cons.mpr ⟨rfl, starts⟩, ?_⟩
      rw [List.reverse_cons, List.append_assoc]
      rfl

/-- A plain path is passable where no file is in the way. -/
theorem isPassable_of_clear (plain : ∀ step ∈ steps, IsPlain step) (clear : f.Clear steps) :
    f.IsPassable steps where
  keepable step among := .inr (plain step among).2
  free names among := by
    obtain ⟨front, starts, same⟩ := prefix_of_mem_way (fun step among => (plain step among).1) among
    obtain rfl : names = front := same
    cases file : f.fileAt? names with
    | none => rfl
    | some content => exact absurd (holds_of_fileAt? file) (clear names content starts)

theorem place_of_isPassable (passable : f.IsPassable steps) :
    (∃ p, place [] [] f steps = .ok p) ∨ place [] [] f steps = .error .missing := by
  have top : Leads f [] [] f := rfl
  have lands := @place_lands T f f [] [] steps top
  generalize place [] [] f steps = r at lands ⊢
  cases lands with
  | ok => exact .inl ⟨_, rfl⟩
  | missing => exact .inr rfl
  | unreadable long => exact absurd passable.keepable long
  | blocked among file => exact nomatch file.symm.trans (passable.free _ among)

/-- A path leads one step further. -/
theorem place_concat (placed : ∃ p, place [] [] f before = .ok p)
    (kept : step = ".." ∨ isTooLong step = false)
    (seen : f.sight (lexical [] (before ++ [step])) = some .folder) :
    ∃ p, place [] [] f (before ++ [step]) = .ok p := by
  obtain ⟨keepable, folders⟩ := place_ok_iff.mp placed
  refine place_ok_iff.mpr ⟨?_, ?_⟩
  · exact List.forall_mem_append.mpr ⟨keepable, List.forall_mem_singleton.mpr kept⟩
  · rw [way_concat]
    exact List.forall_mem_append.mpr ⟨folders, List.forall_mem_singleton.mpr seen⟩

/-- **The last folder of a passable path can be made** if the one before is there. -/
theorem make_of_isPassable (passable : f.IsPassable (before ++ [step]))
    (placed : ∃ p, place [] [] f before = .ok p) :
    ∃ made, make f step before = .ok (made, .ok ()) ∧
      ∃ p, place [] [] made (before ++ [step]) = .ok p := by
  have top : Leads f [] [] f := rfl
  obtain ⟨-, kept, free⟩ := isPassable_concat_iff.mp passable
  obtain ⟨⟨spot, here⟩, placed'⟩ := placed
  obtain ⟨rfl, there⟩ := place_eq_ok top placed'
  have last := lexical_concat [] before step
  rw [make, placed']
  dsimp only [Except.map]
  by_cases back : step = ".."
  · refine ⟨f, by rw [if_pos (beq_iff_eq.mpr back)], place_concat ⟨_, placed'⟩ kept ?_⟩
    rw [last, if_pos (beq_iff_eq.mpr back)]
    exact sight_dropLast (sight_of_descend there)
  · have forth : ¬ (step == "..") = true := fun same => back (beq_iff_eq.mp same)
    have short := kept.resolve_left back
    rw [if_neg forth, if_neg (Bool.eq_false_iff.mp short)]
    rw [if_neg forth] at last
    cases found : here.find? step with
    | none =>
      refine ⟨_, rfl, ?_⟩
      obtain ⟨keepable, folders⟩ := place_ok_iff.mp ⟨_, placed'⟩
      refine place_concat (place_ok_iff.mpr ⟨keepable, fun names among => ?_⟩) kept ?_
      · exact sight_put_new there found (folders names among)
      · rw [last, sight_below _ there, sight, find?_put, if_pos rfl]
        rfl
    | some entry =>
      cases entry with
      | folder inner =>
        refine ⟨f, rfl, place_concat ⟨_, placed'⟩ kept ?_⟩
        rw [last, sight_append there, sight_inner found]
        rfl
      | file content readAt =>
        rw [last, fileAt?_eq_sight, sight_append there, sight_file found] at free
        cases free

/-- A path whose last folder can be made is passable. -/
theorem isPassable_of_make (makes : make f step before = .ok (g, .ok ())) :
    f.IsPassable (before ++ [step]) := by
  have top : Leads f [] [] f := rfl
  rw [make] at makes
  cases placed : place [] [] f before with
  | error e =>
    rw [placed] at makes
    cases makes
  | ok p =>
    obtain ⟨spot, here⟩ := p
    obtain ⟨rfl, there⟩ := place_eq_ok top placed
    have first := isPassable_of_place ⟨_, placed⟩
    have last := lexical_concat [] before step
    refine isPassable_concat_iff.mpr ⟨first, ?_⟩
    rw [placed] at makes
    have ends := Except.ok.inj makes
    dsimp only at ends
    split at ends
    · rename_i back
      refine ⟨.inl (beq_iff_eq.mp back), ?_⟩
      rw [last, if_pos back]
      exact fileAt?_of_folder (sight_dropLast (sight_of_descend there))
    · rename_i forth
      rw [if_neg forth] at last
      split at ends
      · cases ends
      · rename_i short
        refine ⟨.inr (Bool.eq_false_iff.mpr short), ?_⟩
        rw [last, fileAt?_eq_sight, sight_append there]
        split at ends
        · rename_i missing
          rw [sight_none missing]
          rfl
        · rename_i found
          rw [sight_inner found]
          rfl
        · cases ends

/-- **The folders of a passable path can be made**, and lead to the last one of them then. By
induction on the steps, the last one first. -/
theorem place_makeAll (passable : f.IsPassable steps.reverse) :
    ∃ made, makeAll f steps = (made, .ok ()) ∧ ∃ p, place [] [] made steps.reverse = .ok p := by
  induction steps with
  | nil => exact ⟨f, rfl, _, rfl⟩
  | cons step before ih =>
    rw [List.reverse_cons] at passable ⊢
    rw [makeAll]
    obtain placed | missing := place_of_isPassable (isPassable_concat_iff.mp passable).1
    · obtain ⟨made, makes, placed⟩ := make_of_isPassable passable placed
      rw [makes]
      exact ⟨made, rfl, placed⟩
    · have missing' : make f step before.reverse = .error .missing := by
        rw [make, missing]
        rfl
      obtain ⟨made, makes, placed⟩ := ih (isPassable_concat_iff.mp passable).1
      have files : ∀ path content, made.fileAt? path = some content →
          f.fileAt? path = some content := fun path content file => by
        rw [← fileAt?_makeAll before path f, makes]
        exact file
      obtain ⟨made', makes', placed'⟩ := make_of_isPassable (passable.fewer files) placed
      rw [missing', makes]
      dsimp only
      rw [makes']
      exact ⟨made', rfl, placed'⟩

/-- A path whose folders can be made is passable. -/
theorem isPassable_of_makeAll {made : Folder T} (makes : makeAll f steps = (made, .ok ())) :
    f.IsPassable steps.reverse := by
  induction steps generalizing made with
  | nil => exact isPassable_of_place ⟨_, rfl⟩
  | cons step before ih =>
    rw [List.reverse_cons]
    rw [makeAll] at makes
    split at makes
    · rename_i result first
      obtain rfl : result = (made, .ok ()) := makes
      exact isPassable_of_make first
    · split at makes
      · rename_i before' makes'
        split at makes
        · rename_i result last
          obtain rfl : result = (made, .ok ()) := makes
          refine (isPassable_of_make last).fewer fun path content file => ?_
          have same := fileAt?_makeAll before path f
          rw [makes'] at same
          exact same.trans file
        · cases makes
      · rename_i failed
        exact absurd makes (failed made)
    · cases makes

/-- **The folders of a path can be made if and only if it is passable.** -/
theorem makeAll_ok_iff : (makeAll f steps).2 = .ok () ↔ f.IsPassable steps.reverse := by
  constructor
  · exact fun made => isPassable_of_makeAll (Prod.ext rfl made)
  · intro passable
    obtain ⟨made, makes, -⟩ := place_makeAll passable
    rw [makes]

/-! ## Finding files -/

/-- Where some steps lead to, by the names on the way. -/
theorem Reaches.leads {there : Folder T} {above' : List (Folder T)}
    (reaches : Reaches above here steps above' there)
    (leads : Leads root above taken here) :
    ∃ names, Leads root above' names there ∧ lexical taken steps = names.reverse := by
  induction reaches generalizing taken with
  | rest => exact ⟨taken, leads, rfl⟩
  | back _ ih =>
    rw [lexical, if_pos (beq_self_eq_true _)]
    exact ih leads.back
  | into forward _ found _ ih =>
    rw [lexical, if_neg fun back => forward (beq_iff_eq.mp back)]
    have below : Leads root (_ :: _) (_ :: taken) _ := ⟨found, leads⟩
    exact ih below

/-- A file that a path leads to is at the names that the path leads to. -/
theorem fileAt?_of_walk (leads : Leads root above taken here)
    (walked : walk above here steps = .ok (some (.file content readAt))) :
    root.fileAt? (lexical taken steps) = some content := by
  obtain ⟨before, name, above', there, rfl, reaches, forward, -, found⟩ :=
    walk_eq_file_iff.mp walked
  obtain ⟨names, leads', same⟩ := reaches.leads leads
  rw [lexical_concat, if_neg fun back => forward (beq_iff_eq.mp back), same, fileAt?_eq_sight,
    sight_append leads'.descend, sight_file found]
  rfl

/-- A path that a file is found by goes on from a step forth in a folder of that name. -/
theorem find?_of_walk (forward : step ≠ "..")
    (walked : walk above here (step :: (rest ++ [name])) = .ok (some (.file content readAt))) :
    isTooLong step = false ∧ ∃ inner, here.find? step = some (.folder inner) := by
  cases short : isTooLong step with
  | true =>
    rw [walk_long forward short] at walked
    cases walked
  | false =>
    refine ⟨rfl, ?_⟩
    cases found : here.find? step with
    | none =>
      rw [walk_missing forward short found] at walked
      cases walked
    | some entry =>
      cases entry with
      | folder inner => exact ⟨inner, rfl⟩
      | file c r =>
        rw [walk_file forward short found] at walked
        cases rest <;> cases walked

/-- **Where a file is found, one is found in a folder with more files**, if the path to it leads
through folders there. By induction on the steps, in both folders at once. -/
theorem walk_of_walk {here' : Folder T} {above' : List (Folder T)} {c : Content}
    (leads : Leads f above taken here) (leads' : Leads g above' taken here')
    (folders : ∀ names ∈ way taken steps, f.sight names = some .folder)
    (file : f.fileAt? (lexical taken (steps ++ [name])) = some content)
    (walked : walk above' here' (steps ++ [name]) = .ok (some (.file c readAt))) :
    ∃ r, walk above here (steps ++ [name]) = .ok (some (.file content r)) := by
  induction steps generalizing above above' taken here here' with
  | nil =>
    rw [List.nil_append] at file walked ⊢
    obtain ⟨before, last, above'', there, same, reaches, forward, short, -⟩ :=
      walk_eq_file_iff.mp walked
    have same' : [] ++ [name] = before ++ [last] := same
    obtain ⟨rfl, same⟩ := List.append_inj' same' rfl
    obtain rfl := List.singleton_inj.mp same
    rw [lexical, if_neg fun back => forward (beq_iff_eq.mp back), lexical, List.reverse_cons,
      fileAt?_eq_sight, sight_append leads.descend] at file
    cases found : here.find? name with
    | none =>
      rw [sight_none found] at file
      cases file
    | some entry =>
      cases entry with
      | folder inner =>
        rw [sight_inner found] at file
        cases file
      | file c' r =>
        rw [sight_file found] at file
        cases file
        exact ⟨r, walk_file forward short found⟩
  | cons step rest ih =>
    rw [List.cons_append] at file walked ⊢
    obtain ⟨-, later⟩ := List.forall_mem_cons.mp folders
    rw [lexical] at file
    by_cases back : step = ".."
    · subst back
      rw [if_pos (beq_self_eq_true _)] at file later
      cases above' with
      | nil => cases walked
      | cons up' above' =>
        cases taken with
        | nil => cases leads'
        | cons name' taken =>
          cases above with
          | nil => cases leads
          | cons up above => exact ih leads.back leads'.back later file walked
    · have forth : ¬ (step == "..") = true := fun same => back (beq_iff_eq.mp same)
      rw [if_neg forth] at file later
      obtain ⟨short, inner', found'⟩ := find?_of_walk back walked
      -- the step leads to a folder in the other one too
      have seen := later _ (reverse_mem_way (step :: taken) rest)
      rw [List.reverse_cons, sight_append leads.descend] at seen
      obtain ⟨inner, found⟩ := find?_of_sight seen
      rw [walk_into back short found'] at walked
      rw [walk_into back short found]
      have below : Leads f (here :: above) (step :: taken) inner := ⟨found, leads⟩
      have below' : Leads g (here' :: above') (step :: taken) inner' := ⟨found', leads'⟩
      exact ih below below' later file walked

end SolidityRepl.Folder
