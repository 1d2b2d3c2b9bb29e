import SolidityRepl.Proofs.Store
import SolidityRepl.Proofs.World.Making
import SolidityRepl.Proofs.World.Sweep

/-!
# What a store throws away

A sweep of a store takes the files away that have expired and the folders that were empty, and
nothing else. It stands in the way of no look-up: what it took away is made again.
-/

namespace SolidityRepl.Store

open Folder

variable {O T : Type} {store : Store} {key : String} {w t u : World O T}

/-! ## The steps of a look-up -/

theorem short_of_keep {content : Content} (kept : (store.keep key content).run w = (.ok (), t)) :
    Path.isEndless (store.location key) = false := by
  rw [keep, Act.run_ofRun] at kept
  split at kept
  · cases kept
  · exact Bool.eq_false_iff.mpr ‹_›

/-- What is found in a store is found where more files are, if its folder is there too. -/
theorem contentOf_of_fewer {content : Content}
    (placed : ∃ p, w.disk.place [] [] store.steps = .ok p)
    (fewer : ∀ path c, u.disk.fileAt? path = some c → w.disk.fileAt? path = some c)
    (there : store.contentOf key u = some content) : store.contentOf key w = some content := by
  have top : Leads w.disk [] [] w.disk := rfl
  have top' : Leads u.disk [] [] u.disk := rfl
  rw [contentOf] at there
  split at there
  · rename_i walked
    cases there
    have file := fewer _ _ (fileAt?_of_walk top' walked)
    obtain ⟨r, walked'⟩ := walk_of_walk top top' (place_ok_iff.mp placed).2 file walked
    rw [contentOf, location, walked']
  · cases there

/-! ## Sweeps -/

section

variable [Duration T] {all : Bool}

/-- A sweep throws a file away if it throws all away, or if more time than the time to live has
passed since the file was last read. -/
def discards (store : Store) (all : Bool) (now readAt : T) : Bool :=
  all || Duration.isBelow (Duration.ofInt store.ttl) (now - readAt)

/-- What a sweep makes of a world. Nothing but the time of the sweep is changed outside of the
folder that the store is in, and nothing else at all if there is no such folder. -/
structure Collected (store : Store) (all : Bool) (w t : World O T) : Prop where
  gone : ∀ spot tree path, w.disk.place [] [] store.folder = .ok (spot, tree) →
    tree.Goes (store.discards all w.now) path → t.disk.sight (spot ++ path) = none
  kept : ∀ spot tree path, w.disk.place [] [] store.folder = .ok (spot, tree) →
    ¬ tree.Goes (store.discards all w.now) path →
    t.disk.sight (spot ++ path) = w.disk.sight (spot ++ path)
  beside : ∀ path, ¬ store.root <+: path → t.disk.sight path = w.disk.sight path
  absent : (∀ p, w.disk.place [] [] store.folder ≠ .ok p) → t.disk = w.disk
  lastSweep : store.lastSweep t = w.now
  rest : t = { w with disk := t.disk, swept := Keyed.put store.name w.now w.swept }

theorem sweep_collected (somewhere : Path.isNowhere store.folder = false) (tree : w.disk.Distinct)
    (all : Bool) : ∃ t, (store.sweep all).run w = (.ok (), t) ∧ Collected store all w t := by
  have top : Leads w.disk [] [] w.disk := rfl
  rw [sweep, somewhere]
  simp only [Bool.false_eq_true, if_false, Act.run_modify]
  have last : ∀ disk, store.lastSweep
      { w with disk, swept := Keyed.put store.name w.now w.swept } = w.now := fun disk => by
    rw [lastSweep, Keyed.get?_put, if_pos rfl]
    rfl
  refine ⟨_, rfl, ?_⟩
  cases placed : w.disk.place [] [] store.folder with
  | error lost =>
    exact {
      gone := fun _ _ _ there => by cases placed.symm.trans there
      kept := fun _ _ _ there => by cases placed.symm.trans there
      beside := fun _ _ => rfl
      absent := fun _ => rfl
      lastSweep := last _
      rest := rfl }
  | ok p =>
    obtain ⟨spot, here⟩ := p
    obtain ⟨rfl, there⟩ := place_eq_ok top placed
    have walked := fun path => @sight_sweep T here path (store.discards all w.now)
      (distinct_of_descend tree there)
    refine ⟨fun spot' tree' path placed' goes => ?_, fun spot' tree' path placed' stays => ?_,
      fun path outside => ?_, fun absent => absurd placed (absent _), last _, rfl⟩
    · cases placed.symm.trans placed'
      exact (sight_below _ there).trans ((walked path).1 goes)
    · cases placed.symm.trans placed'
      exact (sight_below _ there).trans (((walked path).2 stays).trans (sight_append there).symm)
    · exact sight_beside _ outside w.disk

/-- A sweep adds no file. -/
theorem Collected.fewer (collected : Collected store all w t) (path : List String) (c : Content)
    (file : t.disk.fileAt? path = some c) : w.disk.fileAt? path = some c := by
  have top : Leads w.disk [] [] w.disk := rfl
  rw [fileAt?_eq_sight] at file ⊢
  by_cases inside : store.root <+: path
  · cases placed : w.disk.place [] [] store.folder with
    | error lost =>
      rw [← collected.absent fun p there => nomatch placed.symm.trans there]
      exact file
    | ok p =>
      obtain ⟨spot, here⟩ := p
      obtain ⟨rfl, -⟩ := place_eq_ok top placed
      obtain ⟨rest, rfl⟩ := inside
      by_cases goes : here.Goes (store.discards all w.now) rest
      · have gone := collected.gone _ here rest placed goes
        exact nomatch (congrArg (Option.bind · Sight.content?) gone).symm.trans file
      · have kept := collected.kept _ here rest placed goes
        exact (congrArg (Option.bind · Sight.content?) kept).symm.trans file
  · rw [← collected.beside path inside]
    exact file

end

/-! ## Look-ups after a sweep -/

/-- What lets a look-up succeed: its folder can be made, and its file holds its value, if it is
there. -/
structure Suits (store : Store) (key : String) (value : Json) (w : World O T) : Prop where
  somewhere : Path.isNowhere store.steps = false
  ends : Path.isEndless store.steps = false
  short : Path.isEndless (store.location key) = false
  passable : w.disk.IsPassable store.steps
  found : ∀ content, store.contentOf key (store.prepare.run w).2 = some content →
    content = .value value

/-- The folder of a store that was made is one that can be made. -/
theorem isPassable_of_prepare (made : store.prepare.run w = (.ok (), t)) :
    Path.isNowhere store.steps = false ∧ Path.isEndless store.steps = false ∧
      w.disk.IsPassable store.steps := by
  rw [prepare] at made
  split at made
  · cases made
  · rename_i somewhere
    split at made
    · cases made
    · rename_i ends
      refine ⟨Bool.eq_false_iff.mpr somewhere, Bool.eq_false_iff.mpr ends, ?_⟩
      rw [← List.reverse_reverse store.steps]
      exact makeAll_ok_iff.mp (congrArg Prod.fst made)

theorem suits_of_take {make : Act (World O T) Json} {value : Json}
    (took : (store.take key make).run w = (.ok value, t)) : store.Suits key value w := by
  obtain ⟨_, w', made, took⟩ := Act.ok_of_bind took
  obtain ⟨somewhere, ends, passable⟩ := isPassable_of_prepare made
  have prepared : (store.prepare.run w).2 = w' := congrArg Prod.snd made
  rw [Act.run_bind_ok (Act.run_get w')] at took
  cases there : store.contentOf key w' with
  | none =>
    rw [there] at took
    obtain ⟨_, _, -, took⟩ := Act.ok_of_bind took
    obtain ⟨_, _, kept, -⟩ := Act.ok_of_bind took
    exact ⟨somewhere, ends, short_of_keep kept, passable,
      fun content found => nomatch (prepared ▸ there).symm.trans found⟩
  | some content =>
    rw [there] at took
    cases content with
    | bytes bytes => cases took
    | value found =>
      obtain ⟨_, _, kept, ended⟩ := Act.ok_of_bind took
      refine ⟨somewhere, ends, short_of_keep kept, passable, fun content found' => ?_⟩
      cases ended
      exact (Option.some.inj ((prepared ▸ there).symm.trans found')).symm

/-- Making the folder of a store leaves all files alone. -/
theorem fileAt?_prepare (store : Store) (w : World O T) (path : List String) :
    (store.prepare.run w).2.disk.fileAt? path = w.disk.fileAt? path := by
  rw [prepare]
  split
  · rfl
  · split
    · rfl
    · exact fileAt?_makeAll store.steps.reverse path w.disk

/-- **A look-up is no worse off with fewer files.** A value that was found, and is there still, is
found again, and one that is not there is made. -/
theorem Suits.take {make : Act (World O T) Json} {value made : Json} {v : World O T}
    (suits : store.Suits key value w)
    (fewer : ∀ path c, u.disk.fileAt? path = some c → w.disk.fileAt? path = some c)
    (makes : make.run (store.prepare.run u).2 = (.ok made, v))
    (placed : ∃ p, v.disk.place [] [] store.steps = .ok p) :
    ∃ t, (store.take key make).run u =
      (.ok (if (store.contentOf key (store.prepare.run u).2).isSome then value else made), t) := by
  obtain ⟨ok, placed'⟩ := prepare_of_isPassable suits.somewhere suits.ends
    (suits.passable.fewer fewer)
  have prepared : store.prepare.run u = (.ok (), (store.prepare.run u).2) := Prod.ext ok rfl
  rw [Store.take, Act.run_bind_ok prepared, Act.run_bind_ok (Act.run_get _)]
  cases there : store.contentOf key (store.prepare.run u).2 with
  | none =>
    have kept := keep_of_place (.value made) suits.short placed
    exact ⟨_, (Act.run_bind_ok makes).trans (Act.run_bind_ok kept)⟩
  | some content =>
    obtain ⟨-, placed''⟩ := prepare_of_isPassable suits.somewhere suits.ends suits.passable
    have fewer' : ∀ path c, (store.prepare.run u).2.disk.fileAt? path = some c →
        (store.prepare.run w).2.disk.fileAt? path = some c := fun path c file => by
      rw [fileAt?_prepare] at file ⊢
      exact fewer path c file
    obtain rfl := suits.found content (contentOf_of_fewer placed'' fewer' there)
    exact ⟨_, Act.run_bind_ok (keep_of_place _ suits.short placed')⟩

section

variable [Duration T]

/-- The sweep of a look-up, if there is one, adds no file. -/
theorem tidied_fewer (somewhere : Path.isNowhere store.folder = false) (tree : w.disk.Distinct)
    (path : List String) (c : Content) (file : (store.tidied w).disk.fileAt? path = some c) :
    w.disk.fileAt? path = some c := by
  obtain ⟨t, swept, collected⟩ := sweep_collected somewhere tree false
  rw [tidied] at file
  split at file
  · rw [swept] at file
    exact collected.fewer path c file
  · exact file

/-- **A store throws away what has expired, and nothing else.** A sweep takes away the expired
files, or all files, and the folders that were empty, and notes the time. A look-up does one first
if and only if a tenth of the store's time to live has passed since the last one. If it would have
succeeded without one, it succeeds all the same: what is gone then is made again. -/
theorem sweep_collects (store : Store) (w : World O T)
    (somewhere : Path.isNowhere store.folder = false) (tree : w.disk.Distinct) :
    (∀ all, ∃ t, (store.sweep all).run w = (.ok (), t) ∧ Collected store all w t) ∧
      (∀ key make, (store.lookUp key make).run w = (store.take key make).run
        (if Duration.isAtLeast (w.now - store.lastSweep w) (Duration.ofInt (store.ttl / 10)) then
          ((store.sweep false).run w).2 else w)) ∧
      ∀ key make value made u v, (store.take key make).run w = (.ok value, u) →
        make.run (store.looked w) = (.ok made, v) →
        (∃ p, v.disk.place [] [] store.steps = .ok p) →
        ∃ t, (store.lookUp key make).run w =
          (.ok (if (store.contentOf key (store.looked w)).isSome then value else made), t) := by
  obtain ⟨t, swept, -⟩ := sweep_collected somewhere tree false
  have ran : ((store.sweep false).run w).1 = .ok () := congrArg Prod.fst swept
  refine ⟨sweep_collected somewhere tree, fun key make => lookUp_eq_take ran make,
    fun key make value made u v took makes placed => ?_⟩
  rw [lookUp_eq_take ran]
  exact (suits_of_take took).take (tidied_fewer somewhere tree) makes placed

end

/-- A store whose values are kept for a hundred seconds. -/
def closet : Store := { folder := ["cache"], salt := "solc", ttl := 100, name := "cache:solc" }

/-- Its folder holds an old file, a new one, and an empty folder for its values. -/
def dusty : World Unit Rat where
  outside := ()
  disk := .folder "cache" (.folder "solc" .empty
    (.file "old" (.value .null) 100 (.file "new" (.value .null) 950 .empty))) .empty
  now := 1000
  installed := []
  swept := []
  journal := []

theorem dusty_suits (key : String) (value : Json) : closet.Suits key value dusty := by
  have steps : closet.steps = ["cache", "solc"] := by decide
  refine ⟨by decide, by decide, isEndless_location (by decide) key, ?_, fun content found => ?_⟩
  · rw [steps]
    exact isPassable_of_place ⟨_, rfl⟩
  · rw [contentOf] at found
    split at found
    · rename_i walked
      have top : Leads (closet.prepare.run dusty).2.disk [] [] _ := rfl
      have file := fileAt?_of_walk top walked
      rw [fileAt?_prepare, location, steps, lexical_concat] at file
      generalize closet.fileName key = name at file
      split at file <;> cases file
    · cases found

/-- The old file and the empty folder go, and a look-up makes the folder again. -/
theorem sweep_collects_dusty :
    Path.isNowhere closet.folder = false ∧ dusty.disk.Distinct ∧
      (∃ t, (closet.sweep false).run dusty = (.ok (), t) ∧
        t.disk.sight ["cache", "old"] = none ∧ t.disk.sight ["cache", "solc"] = none ∧
        t.disk.sight ["cache", "new"] = some (.file (.value .null) 950)) ∧
      ∃ t, (closet.lookUp "key" (pure .null)).run dusty = (.ok .null, t) := by
  have somewhere : Path.isNowhere closet.folder = false := by decide
  have tree : dusty.disk.Distinct := by simp [dusty, Distinct, find?]
  obtain ⟨swept, -, found⟩ := sweep_collects closet dusty somewhere tree
  refine ⟨somewhere, tree, ?_, ?_⟩
  · obtain ⟨t, ran, collected⟩ := swept false
    have placed : dusty.disk.place [] [] closet.folder = .ok (["cache"], _) := rfl
    have old := collected.gone _ _ ["old"] placed
    have new := collected.kept _ _ ["new"] placed
    have hollow := collected.gone _ _ ["solc"] placed
      (.folder (List.cons_ne_nil _ _) rfl)
    refine ⟨t, ran, old (.file rfl (by decide +kernel)), hollow, (new ?_).trans rfl⟩
    rintro (⟨seen, expired⟩ | ⟨-, empty⟩)
    · cases seen
      exact absurd expired (by decide +kernel)
    · cases empty
  · have suits := dusty_suits "key" .null
    have passable := suits.passable.fewer (tidied_fewer somewhere tree)
    obtain ⟨-, there⟩ := prepare_of_isPassable suits.somewhere suits.ends suits.passable
    obtain ⟨-, there'⟩ := prepare_of_isPassable suits.somewhere suits.ends passable
    have nothing : (pure .null : Act (World Unit Rat) Json).run = fun w => (.ok .null, w) := rfl
    obtain ⟨u, took⟩ := suits.take (fun _ _ file => file) (congrFun nothing _) there
    obtain ⟨t, looked⟩ := found "key" (pure .null) _ .null u _ took rfl there'
    rw [ite_self, ite_self] at looked
    exact ⟨t, looked⟩

end SolidityRepl.Store
