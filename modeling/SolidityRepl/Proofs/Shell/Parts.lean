import SolidityRepl.Proofs.Shell
import SolidityRepl.Proofs.Shell.Change
import SolidityRepl.Proofs.Run.Rollback
import SolidityRepl.Proofs.Compiler.Stock

/-!
# The parts of a shell follow its settings

A shell that makes its own backend is at all times made of the settings that it has then, unless a
change of settings was refused. The session is nobody's but that of the one desk: it is changed by
those who are to change it.
-/

namespace SolidityRepl

variable {O T : Type}

/-! ## Backends -/

namespace Backend

/-- A backend of some settings: with their gas limits, and not one that a host plugged in with
statements of its own. -/
structure Follows (s : Settings) (b : Backend O T) : Prop where
  gas : b.gas = gasOf s
  keeps : Bench.Keeps b.venue

variable {s : Settings}

theorem ofSettings_follows [Duration T] {b : Backend O T} (made : ofSettings s = .ok b) :
    b.Follows s := by
  simp only [ofSettings, bind, Except.bind] at made
  split at made
  · cases made
  · rename_i venue found
    cases made
    refine ⟨rfl, ?_⟩
    rintro plugin rfl
    simp only [venueOf, bind, Except.bind, pure, Except.pure] at found
    repeat' split at found
    all_goals cases found

theorem start_follows [Duration T] (host : Host O) :
    Act.Keeps (fun b : At O T => b.1.Follows s) (start host) := by
  rintro ⟨b, world⟩ ⟨gas, keeps⟩
  simp only [start, Act.run_bind, Act.run_get]
  cases venue : b.venue with
  | simulated _ | own _ _ => exact ⟨gas, nofun⟩
  | remote _ _ | plugged _ => exact ⟨gas, keeps⟩

theorem stop_follows (host : Host O) :
    Act.Keeps (fun b : At O T => b.1.Follows s) (stop host) := by
  rintro ⟨b, world⟩ ⟨gas, keeps⟩
  simp only [stop, Act.run_bind, Act.run_get]
  cases venue : b.venue with
  | simulated _ | own _ _ => exact ⟨gas, nofun⟩
  | remote _ _ | plugged _ => exact ⟨gas, keeps⟩

theorem deploy_follows [Duration T] (host : Host O) (contracts : Keyed Contract) :
    Act.Keeps (fun b : At O T => b.1.Follows s) (deploy host contracts) := by
  rintro ⟨b, world⟩ ⟨gas, keeps⟩
  refine ⟨?_, Bench.deploy_keeps host contracts (b, world) keeps⟩
  have kept : ((deployAt host b.gas contracts b.venue).run (b, world)).2.1.gas = b.gas := by
    cases b.venue <;> rfl
  simp only [deploy, Act.run_bind, Act.run_get]
  generalize (deployAt host b.gas contracts b.venue).run (b, world) = answered at kept
  obtain ⟨r, after⟩ := answered
  cases r <;> exact kept.trans gas

end Backend

/-! ## Benches -/

namespace Bench

structure Follows (host : Host O) (s : Settings) (b : Bench O T) : Prop where
  store : b.registry.store = s.read .cacheDir
  shelf : b.shelf.Stocked T host (s.read .cacheDir) (s.read .installedVersion)
  base : b.roots.base = s.read .basePath
  others : (s.read .includePaths).parts = .ok b.roots.others
  web : b.roots.web = s.read .allowHttp
  backend : b.backend.Follows s

theorem byBackend_follows {s : Settings} (host : Host O) {α : Type} {act : Act (Backend.At O T) α}
    (kept : Act.Keeps (fun b => b.1.Follows s) act) :
    Act.Keeps (Follows host s) (byBackend act) :=
  fun b h => { h with backend := kept (b.backend, b.world) h.backend }

/-- **The tools of a bench leave it as the settings have it.** -/
theorem tools_follow [Duration T] (host : Host O) (s : Settings) :
    (tools (T := T) host).Apart (Follows host s) where
  compilerFor spec b h := by
    have stocked := h.shelf
    rw [← h.store] at stocked
    obtain ⟨shelf, store⟩ := stocked.request (s := (b.registry, b.world)) spec
    rw [h.store] at shelf
    exact { h with store := store.trans h.store, shelf }
  compile _ _ _ _ h := { h with }
  deploy contracts := byBackend_follows host (Backend.deploy_follows host contracts)
  warn warning b h := by
    simp only [tools, warn, Act.run_bind, Act.run_get]
    split
    · exact { h with }
    · cases warning.shown? with
      | some text => exact { h with }
      | none => exact h
  note _ _ h := ⟨rfl, { h with }⟩
  interjected b h := by
    obtain ⟨nothing, _⟩ := (tools_apart host).interjected b h.backend.keeps
    refine ⟨nothing, ?_⟩
    simp only [tools, interjected]
    split
    · exact { h with }
    · exact h

end Bench

namespace Shell

variable {s : Settings} {host : Host O}

theorem roots_ofSettings {roots : Import.Roots} (made : Import.Roots.ofSettings s = .ok roots) :
    roots.base = s.read .basePath ∧ (s.read .includePaths).parts = .ok roots.others ∧
      roots.web = s.read .allowHttp := by
  rw [ofSettings_eq] at made
  cases parted : (s.read .includePaths).parts with
  | error e =>
    rw [parted] at made
    cases made
  | ok others =>
    rw [parted] at made
    cases made
    exact ⟨rfl, rfl, rfl⟩

/-- A shell that makes its own backend is opened with a bench of its settings. -/
theorem open_follows [Duration T] {listens : Bool} {world : World O T} {shell : Shell O T}
    (opened : (open? host s none listens world).1 = .ok shell) :
    shell.settings = s ∧ shell.desk.session = [] ∧ shell.desk.world.Follows host s := by
  rw [open?] at opened
  cases made : benchOf s none listens world with
  | error e =>
    rw [made] at opened
    cases opened
  | ok bench =>
    have follows : bench.Follows host s := by
      simp only [benchOf, bind, Except.bind] at made
      split at made
      · cases made
      rename_i shelf shelved
      split at made
      · cases made
      rename_i backend backed
      split at made
      · cases made
      rename_i roots rooted
      cases made
      obtain ⟨base, others, web⟩ := roots_ofSettings rooted
      exact ⟨rfl, Shelf.ofInstalled_stocked T host _ shelved, base, others, web,
        Backend.ofSettings_follows backed⟩
    have started := Bench.byBackend_follows host (Backend.start_follows host) bench follows
    rw [made] at opened
    dsimp only at opened
    generalize (Bench.byBackend (Backend.start host)).run bench = ready at opened started
    obtain ⟨r, bench⟩ := ready
    cases r with
    | error e => cases opened
    | ok _ =>
      cases opened
      exact ⟨rfl, rfl, started⟩

/-! ## Changes of settings -/

theorem read_changed {key k : Setting} {value : Option Json} (other : k ≠ key) :
    (changed s key value).read k = s.read k := if_neg other

theorem ite_read_changed {key : Setting} {value : Option Json} (k : Setting) :
    (if key = k then (changed s key value).read k else s.read k) =
      (changed s key value).read k := by
  split
  · rfl
  · rename_i other
    exact (read_changed (Ne.symm other)).symm

/-- **What is made again follows the new settings**, and what is not is made of none that are
new. -/
theorem Remade.follows {key : Setting} {value : Option Json} {before after : Bench O T}
    (remade : Remade (changed s key value) key before after) (follows : before.Follows host s) :
    after.Follows host (changed s key value) := by
  have kept {of : Setting → Bool} (none : of key = false) {k : Setting} (some : of k = true) :
      (changed s key value).read k = s.read k := by
    refine read_changed ?_
    rintro rfl
    rw [none] at some
    cases some
  have compilers : after.registry.store = (changed s key value).read .cacheDir ∧
      after.shelf.Stocked T host ((changed s key value).read .cacheDir)
        ((changed s key value).read .installedVersion) := by
    have made := remade.compilers
    cases of : key.isOfCompilers with
    | true =>
      rw [of, if_pos rfl] at made
      exact ⟨congrArg _ made.1, Shelf.ofInstalled_stocked T host _ made.2⟩
    | false =>
      rw [of, if_neg Bool.false_ne_true] at made
      rw [kept of rfl, kept of rfl, made.1, made.2]
      exact ⟨follows.store, follows.shelf⟩
  have imports : after.roots.base = (changed s key value).read .basePath ∧
      ((changed s key value).read .includePaths).parts = .ok after.roots.others ∧
      after.roots.web = (changed s key value).read .allowHttp := by
    have made := remade.imports
    cases of : key.isOfImports with
    | true =>
      rw [of, if_pos rfl] at made
      exact roots_ofSettings made
    | false =>
      rw [of, if_neg Bool.false_ne_true] at made
      rw [kept of rfl, kept of rfl, kept of rfl, made]
      exact ⟨follows.base, follows.others, follows.web⟩
  have gas : after.backend.gas = Backend.gasOf (changed s key value) := by
    rw [remade.gas]
    show GasLimits.mk _ _ = GasLimits.mk _ _
    rw [follows.backend.gas]
    exact congr (congrArg GasLimits.mk (ite_read_changed .deployGas)) (ite_read_changed .callGas)
  refine ⟨compilers.1, compilers.2, imports.1, imports.2.1, imports.2.2, gas, ?_⟩
  rw [remade.gas]
  exact follows.backend.keeps

/-! ## All that is done with a shell -/

inductive Move where
  | run (statement : Statement)
  | undo
  | reset
  | load (record : String)
  /-- A setting is set, or goes back to its default. -/
  | change (name : String) (value : Option Json)
  /-- A new backend is made from the settings. -/
  | renew

namespace Move

variable [Duration T]

def act (host : Host O) : Move → Act (Shell O T) Unit
  | .run statement => do let _ ← runStatement host statement
  | .undo => do let _ ← Shell.undo
  | .reset => Shell.reset
  | .load record => Shell.load record
  | .change name value => Shell.change name value
  | .renew => Shell.renew host none

def isChange : Move → Bool
  | .change _ _ => true
  | _ => false

/-- The session after a move, and what it was before. -/
def Leaves (before after : Session) (r : Except Failure Unit) : Move → Prop
  | .run statement => match r with
    | .ok _ => ∃ final, statement.Becomes final ∧ after = before.push final
    | .error _ => after = before
  | .undo => after = before.pop
  | .reset => after = []
  | .load record => match Session.ofRecord record with
    | .ok saved => after = saved
    | .error _ => after = before
  | .change _ _ | .renew => after = before

end Move

/-- A shell of these settings and with this session, whose bench follows the settings. -/
structure Holds (host : Host O) (s : Settings) (session : Session) (shell : Shell O T) : Prop where
  settings : shell.settings = s
  session : shell.desk.session = session
  bench : shell.desk.world.Follows host s

variable {session : Session}

theorem byBackend_holds {α : Type} {act : Act (Backend.At O T) α}
    (kept : Act.Keeps (fun b => b.1.Follows s) act) :
    Act.Keeps (Holds host s session) (byBackend act) := fun _ h =>
  { h with bench := Bench.byBackend_follows host kept _ h.bench }

variable [Duration T]

/-- **A new backend is one of the settings**, and as long as there is none the old one is. -/
theorem renew_holds (host : Host O) :
    Act.Keeps (Holds (T := T) host s session) (renew host none) := by
  refine .bind (byBackend_holds (Backend.stop_follows host)) fun _ => ?_
  refine .get_bind fun shell h => .ofExcept_bind fun backend made => ?_
  rw [h.settings] at made
  refine .bind (fun _ h => ?_) fun _ => byBackend_holds (Backend.start_follows host)
  exact { h with bench := { h.bench with backend := Backend.ofSettings_follows made } }

/-- **A run changes the session only**, and only if it succeeds. -/
theorem run_follows (statement : Statement) {shell : Shell O T}
    (follows : shell.desk.world.Follows host shell.settings) : ∃ final r after,
      statement.Becomes final ∧
      (runStatement host statement).run shell = (r, { shell with desk := after }) ∧
      after.session = Desk.sessionAfter shell.desk.session final r ∧
      after.world.Follows host shell.settings := by
  obtain ⟨final, r, after, ran⟩ :=
    Desk.run_ran (Bench.tools_follow host shell.settings) shell.settings statement follows
  refine ⟨final, r, after, ran.course.becomes, ?_, ran.session, ran.goes.stays⟩
  simp only [runStatement, Act.run_bind, Act.run_get, atDesk, Act.run_zoom, ran.goes.run]

/-- **One move**: it leaves a session as it should, and a bench that follows the settings unless a
change is refused. -/
theorem move_follows (move : Move) {shell : Shell O T}
    (follows : shell.desk.world.Follows host shell.settings) :
    let ends := (move.act host).run shell
    move.Leaves shell.desk.session ends.2.desk.session ends.1 ∧
      ((move.isChange = true → ends.1 = .ok ()) →
        ends.2.desk.world.Follows host ends.2.settings) := by
  cases move with
  | run statement =>
    obtain ⟨final, r, after, becomes, ran, session, kept⟩ := run_follows statement follows
    simp only [Move.act, Act.run_bind, ran]
    cases r with
    | ok value => exact ⟨⟨final, becomes, session⟩, fun _ => kept⟩
    | error e => exact ⟨session, fun _ => kept⟩
  | undo | reset => exact ⟨rfl, fun _ => follows⟩
  | load record =>
    simp only [Move.act, Shell.load, Move.Leaves, Act.run_bind, Act.run_ofExcept]
    cases Session.ofRecord record with
    | ok saved => exact ⟨rfl, fun _ => follows⟩
    | error e => exact ⟨rfl, fun _ => follows⟩
  | change name value =>
    obtain ⟨key, bench, remade, ran⟩ | ⟨e, after, ran, session⟩ := change_cases shell name value
    · simp only [Move.act, ran]
      exact ⟨rfl, fun _ => remade.follows follows⟩
    · simp only [Move.act, ran]
      exact ⟨session, fun done => nomatch done rfl⟩
  | renew =>
    obtain ⟨settings, session, bench⟩ := renew_holds host shell ⟨rfl, rfl, follows⟩
    refine ⟨session, fun _ => ?_⟩
    rw [Move.act, settings]
    exact bench

/-- Shells that are reached from one. Every change of settings on the way was a success; all else
may have failed. -/
inductive Reached (host : Host O) (start : Shell O T) : Shell O T → Prop
  | start : Reached host start start
  | next {shell : Shell O T} (reached : Reached host start shell) (move : Move)
      (done : move.isChange = true → ((move.act host).run shell).1 = .ok ()) :
      Reached host start ((move.act host).run shell).2

theorem reached_follows {start shell : Shell O T} (reached : Reached host start shell)
    (follows : start.desk.world.Follows host start.settings) :
    shell.desk.world.Follows host shell.settings := by
  induction reached with
  | start => exact follows
  | next _ move done ih => exact (move_follows move ih).2 done

/-- **The parts of a shell follow its settings.** From a shell that made its own backend, whatever
is done with it, the store of the registry and of every compiler is the one that is set, the
versions at hand are the installed one and those that the registry found, and the places of imports
and the gas limits are those that are set. Whatever is done next changes the session as it should:
only what runs, takes away or loads statements changes it at all. -/
theorem parts_follow {listens : Bool} {world : World O T} {start shell : Shell O T}
    (opened : (open? host s none listens world).1 = .ok start)
    (reached : Reached host start shell) :
    shell.desk.world.Follows host shell.settings ∧
      ∀ move : Move, move.Leaves shell.desk.session
        ((move.act host).run shell).2.desk.session ((move.act host).run shell).1 := by
  obtain ⟨rfl, _, follows⟩ := open_follows opened
  have now := reached_follows reached follows
  exact ⟨now, fun move => (move_follows move now).1⟩

/-- A shell whose stores are switched off before a run and a new backend. -/
theorem parts_follow_storeless : ∃ shell : Shell Unit Rat,
    (open? (Shelf.idle Unit) .default none false fresh.desk.world.world).1 = .ok fresh ∧
    Reached (Shelf.idle Unit) fresh shell ∧
    shell.desk.world.Follows (Shelf.idle Unit) shell.settings ∧
    ∀ move : Move, move.Leaves shell.desk.session
      ((move.act (Shelf.idle Unit)).run shell).2.desk.session
      ((move.act (Shelf.idle Unit)).run shell).1 := by
  have opened :
    (open? (Shelf.idle Unit) .default none false fresh.desk.world.world).1 = .ok fresh := rfl
  have switched : Reached (Shelf.idle Unit) fresh _ :=
    Reached.start.next (.change "cache_dir" (some .null)) fun _ => rfl
  have reached := (switched.next (.run (.ofText "1 + 1" none)) nofun).next .renew nofun
  exact ⟨_, opened, reached, parts_follow opened reached⟩

end Shell

end SolidityRepl
