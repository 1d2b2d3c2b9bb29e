import SolidityRepl.Shell
import SolidityRepl.Proofs.Act

/-!
# Changes of settings

A setting that is changed is written down before the parts that are made from it are made again. A
value that no part can be made from is refused, but it has been written down by then, and so has the
folder of the store.

* `Shell.Remade`: what is made again for a setting, and what is left alone;
* `Shell.Unfit`: settings that the parts of a setting cannot be made from;
* `Shell.change_allOrNothing`: what a change does, and when it is all or nothing.
-/

namespace SolidityRepl

namespace Setting

/-- The compilers at hand are made from these. -/
def isOfCompilers : Setting → Bool
  | .installedVersion | .cacheDir => true
  | _ => false

/-- The places of imports are made from these. -/
def isOfImports : Setting → Bool
  | .basePath | .includePaths | .allowHttp => true
  | _ => false

/-- The next backend is made from these. -/
def isOfBackend : Setting → Bool
  | .provider | .providerUrl | .autostart | .nodeArgs => true
  | _ => false

theorem isOfImports_of_compilers {key : Setting} (of : key.isOfCompilers = true) :
    key.isOfImports = false := by
  cases key <;> first | rfl | cases of

end Setting

namespace Shell

variable {O T : Type}

/-- A setting by name is given a value, or goes back to its default if none is given. -/
def change (name : String) (value : Option Json) : Act (Shell O T) Unit :=
  match value with
  | some value => set name value
  | none => unset name

def changed (s : Settings) (key : Setting) (value : Option Json) : Settings :=
  s.put key (value.getD key.default)

/-- The parts of a bench that are made from a setting are made of settings `s`. All others are what
they were, and whoever sets a backend is told that there has to be a new one. -/
structure Remade (s : Settings) (key : Setting) (before after : Bench O T) : Prop where
  compilers : if key.isOfCompilers then
      after.registry = { before.registry with store := s.read .cacheDir } ∧
        Shelf.ofInstalled (s.read .installedVersion) = .ok after.shelf
    else after.registry = before.registry ∧ after.shelf = before.shelf
  imports : if key.isOfImports then Import.Roots.ofSettings s = .ok after.roots
    else after.roots = before.roots
  gas : after.backend = { before.backend with gas := {
    deploy := if key = .deployGas then s.read .deployGas else before.backend.gas.deploy
    call := if key = .callGas then s.read .callGas else before.backend.gas.call } }
  world : after.world = if key.isOfBackend then
      { before.world with
        journal := before.world.journal ++ [.noted (.takesEffectLater key.name)] }
    else before.world
  listens : after.listens = before.listens

/-- Settings that the parts of a setting cannot be made from: the installed version is a text that
is no version, or no text; or the folders for imports are nothing that can be gone through. -/
inductive Unfit (s : Settings) (key : Setting) : Failure → Prop
  | version {spec : String} {e : Failure} : key.isOfCompilers = true →
      s.read .installedVersion = .str spec → Version.read (Range.normalized spec) = .error e →
      Unfit s key e
  | noText : key.isOfCompilers = true → s.read .installedVersion ≠ .null →
      (∀ spec, s.read .installedVersion ≠ .str spec) → Unfit s key .unsupported
  | folders {e : Failure} : key.isOfImports = true → (s.read .includePaths).parts = .error e →
      Unfit s key e

theorem ofInstalled_error_iff {v : Json} {e : Failure} :
    Shelf.ofInstalled v = .error e ↔
      (∃ spec, v = .str spec ∧ Version.read (Range.normalized spec) = .error e) ∨
      (v ≠ .null ∧ (∀ spec, v ≠ .str spec) ∧ e = .unsupported) := by
  cases v with
  | str spec =>
    simp only [Shelf.ofInstalled, Json.str.injEq, exists_eq_left']
    cases Version.read (Range.normalized spec) <;> simp [Except.map]
  | null => simp [Shelf.ofInstalled]
  | bool _ | int _ | real _ | arr _ | obj _ => simp [Shelf.ofInstalled, eq_comm]

theorem ofSettings_eq (s : Settings) :
    Import.Roots.ofSettings s = (s.read .includePaths).parts.map fun others =>
      { base := s.read .basePath, others, web := s.read .allowHttp } := by
  rw [Import.Roots.ofSettings]
  cases (s.read .includePaths).parts <;> rfl

theorem unfit_of_compilers {s : Settings} {key : Setting} {e : Failure}
    (of : key.isOfCompilers = true) :
    Unfit s key e ↔ Shelf.ofInstalled (s.read .installedVersion) = .error e := by
  rw [ofInstalled_error_iff]
  constructor
  · rintro (⟨_, text, unread⟩ | ⟨_, some, noText⟩ | ⟨imports, _⟩)
    · exact .inl ⟨_, text, unread⟩
    · exact .inr ⟨some, noText, rfl⟩
    · rw [Setting.isOfImports_of_compilers of] at imports
      cases imports
  · rintro (⟨spec, text, unread⟩ | ⟨some, noText, rfl⟩)
    · exact .version of text unread
    · exact .noText of some noText

theorem unfit_of_imports {s : Settings} {key : Setting} {e : Failure}
    (of : key.isOfImports = true) :
    Unfit s key e ↔ Import.Roots.ofSettings s = .error e := by
  have others : key.isOfCompilers = false := by cases key <;> first | rfl | cases of
  rw [ofSettings_eq]
  constructor
  · rintro (⟨compilers, _, _⟩ | ⟨compilers, _, _⟩ | ⟨_, unlisted⟩)
    · rw [others] at compilers
      cases compilers
    · rw [others] at compilers
      cases compilers
    · rw [unlisted]
      rfl
  · intro fails
    refine .folders of ?_
    cases parted : (s.read .includePaths).parts with
    | error e' =>
      rw [parted] at fails
      cases fails
      rfl
    | ok items =>
      rw [parted] at fails
      cases fails

/-! ## Taking effect -/

theorem remade_compilers {s : Settings} {key : Setting} {bench : Bench O T} {shelf : Shelf}
    (of : key.isOfCompilers = true)
    (made : Shelf.ofInstalled (s.read .installedVersion) = .ok shelf) :
    Remade s key bench
      { bench with registry := { bench.registry with store := s.read .cacheDir }, shelf } := by
  cases key with
  | installedVersion | cacheDir => exact ⟨⟨rfl, made⟩, rfl, rfl, rfl, rfl⟩
  | _ => cases of

theorem remade_imports {s : Settings} {key : Setting} {bench : Bench O T} {roots : Import.Roots}
    (of : key.isOfImports = true) (made : Import.Roots.ofSettings s = .ok roots) :
    Remade s key bench { bench with roots } := by
  cases key with
  | basePath | includePaths | allowHttp => exact ⟨⟨rfl, rfl⟩, made, rfl, rfl, rfl⟩
  | _ => cases of

variable (shell : Shell O T)

/-- Compilers are made again after the folder of their store was written down. -/
theorem apply_run_compilers {key : Setting} (of : key.isOfCompilers = true) :
    (apply key).run shell =
      let bench := { shell.desk.world with registry :=
        { shell.desk.world.registry with store := shell.settings.read .cacheDir } }
      match Shelf.ofInstalled (shell.settings.read .installedVersion) with
      | .ok shelf => (.ok (), { shell with desk := { shell.desk with world :=
          { bench with shelf } } })
      | .error e => (.error e, { shell with desk := { shell.desk with world := bench } }) := by
  cases key with
  | installedVersion | cacheDir =>
    simp only [apply, Act.run_bind, Act.run_get, atBench, atDesk, Desk.inWorld, Act.run_zoom,
      Act.run_modify, shelfOf, Act.run_ofExcept]
    cases Shelf.ofInstalled (shell.settings.read .installedVersion) <;> rfl
  | _ => cases of

theorem apply_run_imports {key : Setting} (of : key.isOfImports = true) :
    (apply key).run shell =
      match Import.Roots.ofSettings shell.settings with
      | .ok roots => (.ok (), { shell with desk := { shell.desk with world :=
          { shell.desk.world with roots } } })
      | .error e => (.error e, shell) := by
  cases key with
  | basePath | includePaths | allowHttp =>
    simp only [apply, Act.run_bind, Act.run_get, atBench, atDesk, Desk.inWorld, Act.run_zoom,
      Act.run_modify, Act.run_ofExcept]
    cases Import.Roots.ofSettings shell.settings <;> rfl
  | _ => cases of

/-- **A setting takes effect** unless its parts cannot be made. -/
theorem apply_remade (key : Setting) (fits : ∀ e, ¬ Unfit shell.settings key e) :
    ∃ bench, (apply key).run shell =
        (.ok (), { shell with desk := { shell.desk with world := bench } }) ∧
      Remade shell.settings key shell.desk.world bench := by
  by_cases compilers : key.isOfCompilers = true
  · rw [apply_run_compilers shell compilers]
    cases made : Shelf.ofInstalled (shell.settings.read .installedVersion) with
    | error e => exact absurd ((unfit_of_compilers compilers).mpr made) (fits e)
    | ok shelf => exact ⟨_, rfl, remade_compilers compilers made⟩
  by_cases imports : key.isOfImports = true
  · rw [apply_run_imports shell imports]
    cases made : Import.Roots.ofSettings shell.settings with
    | error e => exact absurd ((unfit_of_imports imports).mpr made) (fits e)
    | ok roots => exact ⟨_, rfl, remade_imports imports made⟩
  -- Gas limits and the settings of the next backend are left, and those that nothing is made from.
  cases key with
  | installedVersion | cacheDir => exact absurd rfl compilers
  | basePath | includePaths | allowHttp => exact absurd rfl imports
  | _ => exact ⟨_, rfl, ⟨rfl, rfl⟩, rfl, rfl, rfl, rfl⟩

/-- What is left of a bench when the parts of a setting cannot be made: the folder of the store has
been written down by then. -/
def stale (s : Settings) (key : Setting) (bench : Bench O T) : Bench O T :=
  if key.isOfCompilers then
    { bench with registry := { bench.registry with store := s.read .cacheDir } }
  else bench

theorem apply_unfit {key : Setting} {e : Failure} (unfit : Unfit shell.settings key e) :
    (apply key).run shell = (.error e, { shell with desk := { shell.desk with
      world := stale shell.settings key shell.desk.world } }) := by
  by_cases compilers : key.isOfCompilers = true
  · rw [apply_run_compilers shell compilers, (unfit_of_compilers compilers).mp unfit, stale,
      if_pos compilers]
  have imports : key.isOfImports = true := by
    rcases unfit with ⟨of, _, _⟩ | ⟨of, _, _⟩ | ⟨of, _⟩
    · exact absurd of compilers
    · exact absurd of compilers
    · exact of
  rw [apply_run_imports shell imports, (unfit_of_imports imports).mp unfit, stale,
    if_neg compilers]

theorem stale_eq_iff {s : Settings} {key : Setting} {bench : Bench O T} :
    stale s key bench = bench ↔
      (key.isOfCompilers = true → bench.registry.store = s.read .cacheDir) := by
  rw [stale]
  split
  · rename_i of
    constructor
    · intro same _
      exact (congrArg (·.registry.store) same).symm
    · intro same
      rw [← same of]
  · rename_i other
    exact ⟨fun _ of => absurd of other, fun _ => rfl⟩

/-! ## Changes by name -/

variable (name : String) (value : Option Json)

theorem change_run : (change name value).run shell =
    match Setting.ofName? name with
    | none => (.error (.unknownSettings [name]), shell)
    | some key =>
      (apply key).run { shell with settings := changed shell.settings key value } := by
  cases value with
  | some value =>
    rw [change, set, Act.run_bind, Act.run_ofExcept, Settings.key]
    cases Setting.ofName? name <;> rfl
  | none =>
    rw [change, unset, Act.run_bind, Act.run_ofExcept, Settings.key]
    cases Setting.ofName? name <;> rfl

theorem changed_eq_iff {s : Settings} {key : Setting} :
    changed s key value = s ↔ s.read key = value.getD key.default := by
  constructor
  · intro same
    have written : (changed s key value).read key = value.getD key.default := if_pos rfl
    rwa [same] at written
  · intro same
    have reads : (changed s key value).read = s.read := by
      funext k
      rw [changed, Settings.read_put]
      split
      · rename_i here
        rw [here, same]
      · rfl
    exact congrArg Settings.mk reads

/-- A change that succeeds with everything made again that has to be, or fails and leaves the shell
as it was. -/
def AllOrNothing : Prop :=
  match (change name value).run shell with
  | (.ok _, after) => ∃ key bench, Setting.ofName? name = some key ∧
      Remade (changed shell.settings key value) key shell.desk.world bench ∧
      after = { settings := changed shell.settings key value,
                desk := { shell.desk with world := bench } }
  | (.error _, after) => after = shell

theorem change_fits {key : Setting} (named : Setting.ofName? name = some key)
    (fits : ∀ e, ¬ Unfit (changed shell.settings key value) key e) :
    ∃ bench, Remade (changed shell.settings key value) key shell.desk.world bench ∧
      (change name value).run shell = (.ok (), {
        settings := changed shell.settings key value,
        desk := { shell.desk with world := bench } }) := by
  obtain ⟨bench, ran, remade⟩ :=
    apply_remade { shell with settings := changed shell.settings key value } key fits
  refine ⟨bench, remade, ?_⟩
  rw [change_run, named]
  exact ran

theorem change_unfit {key : Setting} {e : Failure} (named : Setting.ofName? name = some key)
    (unfit : Unfit (changed shell.settings key value) key e) :
    (change name value).run shell = (.error e, {
      settings := changed shell.settings key value,
      desk := { shell.desk with
        world := stale (changed shell.settings key value) key shell.desk.world } }) := by
  rw [change_run, named]
  exact apply_unfit { shell with settings := changed shell.settings key value } unfit

/-- A change succeeds with parts that are made again, or fails with the session as it was. -/
theorem change_cases :
    (∃ key bench, Remade (changed shell.settings key value) key shell.desk.world bench ∧
      (change name value).run shell = (.ok (), {
        settings := changed shell.settings key value,
        desk := { shell.desk with world := bench } })) ∨
    ∃ e after, (change name value).run shell = (.error e, after) ∧
      after.desk.session = shell.desk.session := by
  cases named : Setting.ofName? name with
  | none =>
    refine .inr ⟨.unknownSettings [name], shell, ?_, rfl⟩
    rw [change_run, named]
  | some key =>
    by_cases refused : ∃ e, Unfit (changed shell.settings key value) key e
    · obtain ⟨e, unfit⟩ := refused
      exact .inr ⟨e, _, change_unfit shell name value named unfit, rfl⟩
    · obtain ⟨bench, remade, ran⟩ :=
        change_fits shell name value named fun e unfit => refused ⟨e, unfit⟩
      exact .inl ⟨key, bench, remade, ran⟩

/-- A change that is refused leaves no trace if it changes nothing, neither the setting nor the
folder of the store. -/
theorem refused_eq_iff {key : Setting} :
    ({ settings := changed shell.settings key value,
       desk := { shell.desk with
         world := stale (changed shell.settings key value) key shell.desk.world } } :
        Shell O T) = shell ↔
      shell.settings.read key = value.getD key.default ∧
      (key.isOfCompilers = true →
        shell.desk.world.registry.store = shell.settings.read .cacheDir) := by
  rw [← changed_eq_iff]
  constructor
  · intro same
    have unchanged := congrArg Shell.settings same
    have bench := congrArg (·.desk.world) same
    simp only at unchanged bench
    rw [stale_eq_iff, unchanged] at bench
    exact ⟨unchanged, bench⟩
  · rintro ⟨unchanged, store⟩
    rw [unchanged, stale_eq_iff.mpr store]

/-- **What a change does.** A name that no setting has changes nothing. If the parts of the setting
can be made from the new settings, they are, and nothing else changes. If they cannot, the change
fails, but the setting keeps the new value, and the registry the new folder of the store. So a
change is all or nothing unless it is refused for a value that is new, or that brings a new folder
with it. -/
theorem change_allOrNothing :
    (Setting.ofName? name = none →
      (change name value).run shell = (.error (.unknownSettings [name]), shell)) ∧
    (∀ key, Setting.ofName? name = some key →
      let s := changed shell.settings key value
      ((∀ e, ¬ Unfit s key e) → ∃ bench, Remade s key shell.desk.world bench ∧
        (change name value).run shell =
          (.ok (), { settings := s, desk := { shell.desk with world := bench } })) ∧
      ∀ e, Unfit s key e → (change name value).run shell =
        (.error e, {
          settings := s
          desk := { shell.desk with world := stale s key shell.desk.world } })) ∧
    (AllOrNothing shell name value ↔ ∀ key e, Setting.ofName? name = some key →
      Unfit (changed shell.settings key value) key e →
        shell.settings.read key = value.getD key.default ∧
        (key.isOfCompilers = true →
          shell.desk.world.registry.store = shell.settings.read .cacheDir)) := by
  refine ⟨?_, ?_, ?_⟩
  · intro unnamed
    rw [change_run, unnamed]
  · intro key named
    exact ⟨change_fits shell name value named, fun e => change_unfit shell name value named⟩
  · cases named : Setting.ofName? name with
    | none =>
      rw [AllOrNothing, change_run, named]
      exact ⟨nofun, fun _ => rfl⟩
    | some key =>
      by_cases refused : ∃ e, Unfit (changed shell.settings key value) key e
      · obtain ⟨e, unfit⟩ := refused
        rw [AllOrNothing, change_unfit shell name value named unfit]
        constructor
        · rintro same _ _ ⟨⟩ _
          exact (refused_eq_iff shell value).mp same
        · intro nothing
          exact (refused_eq_iff shell value).mpr (nothing key e rfl unfit)
      · obtain ⟨bench, remade, ran⟩ :=
          change_fits shell name value named fun e unfit => refused ⟨e, unfit⟩
        rw [AllOrNothing, ran]
        constructor
        · rintro _ _ e ⟨⟩ unfit
          exact absurd ⟨e, unfit⟩ refused
        · intro _
          exact ⟨key, bench, named, remade, rfl⟩

def fresh : Shell Unit Rat where
  settings := .default
  desk := { world := {
    registry := { store := .str "~/.cache/solshell" }
    shelf := { resolved := [("0.8.26", { release := [0, 8, 26] })] }
    roots := { base := .str "", others := [], web := .bool false }
    backend := { venue := .simulated (Simulator.start {}), gas := Backend.gasOf .default }
    world := ⟨(), .empty, 0, [], [], []⟩ } }

def nextPragma? (shell : Shell O T) : Option String :=
  (Frame.ofSettings shell.settings).pragma? shell.desk.session

/-- A version that cannot be read is refused, but it is the one that the next program names. -/
theorem change_version_astray :
    ¬ AllOrNothing fresh "installed_solidity_version" (some (.str "latest")) ∧
    nextPragma? fresh = some "pragma solidity 0.8.26;" ∧
    ∃ after, (change "installed_solidity_version" (some (.str "latest"))).run fresh =
        (.error .badVersion, after) ∧
      nextPragma? after = some "pragma solidity latest;" := by
  have named : Setting.ofName? "installed_solidity_version" = some .installedVersion := by decide
  have unfit : Unfit (changed fresh.settings .installedVersion (some (.str "latest")))
      .installedVersion .badVersion := .version rfl rfl rfl
  have refused := change_unfit fresh _ _ named unfit
  refine ⟨?_, rfl, _, refused, rfl⟩
  rw [AllOrNothing, refused]
  intro same
  have version : Json.str "0.8.26" = Json.str "latest" := ((refused_eq_iff fresh _).mp same).1
  exact absurd (Json.str.inj version) (by decide)

end Shell

end SolidityRepl
