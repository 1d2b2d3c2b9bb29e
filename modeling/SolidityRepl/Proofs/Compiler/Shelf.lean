import SolidityRepl.Proofs.Compiler.Asking
import SolidityRepl.Proofs.Compiler.Registry
import SolidityRepl.Proofs.Version.Key

/-!
# What stands on shelves

A shelf asks its registry for the key of a range, not for the range. A key has lost the caret that a
range may begin with, so the registry may choose another version for it.
-/

namespace SolidityRepl.Shelf

open Version

/-! ## Shelves of a registry -/

variable {O T : Type}

/-- What a shelf of a registry answers for a range. -/
def answer (host : Host O) (shelf : Shelf) (s : Registry.At O T) (spec : String) :
    Except Failure Compiler :=
  ((resolve (Registry.builds host) spec).run (shelf, s)).1

/-- A version that a registry of final releases chooses for a text. -/
def IsChosen (O T : Type) (text : String) (v : Version) : Prop :=
  ∃ (host : Host O) (s : Registry.At O T), Registry.IsFinal host s ∧
    ((Registry.resolve host text).run s).1 = .ok (some v)

/-- Every version that stands on a shelf is one of those that `Fits` allows for its key. -/
structure Stands (Fits : String → Version → Prop) (shelf : Shelf) : Prop where
  resolved : ∀ key v, Keyed.get? key shelf.resolved = some v → Fits key v
  loaded : ∀ key compiler, Keyed.get? key shelf.loaded = some compiler → Fits key compiler.version

/-- Shelves that requests fill, each in whatever state the world is then. Nothing but final releases
is installed, and nothing else can be. -/
inductive Grown (O T : Type) (start : Shelf) : Shelf → Prop
  | start : Grown O T start start
  | request {host : Host O} {shelf : Shelf} {s : Registry.At O T} (spec : String)
      (grown : Grown O T start shelf) (final : Registry.IsFinal host s) :
      Grown O T start ((resolve (Registry.builds host) spec).run (shelf, s)).2.1

variable {Fits : String → Version → Prop} {host : Host O} {shelf : Shelf} {s : Registry.At O T}
  {spec : String}

theorem builds_resolve (host : Host O) (text : String) :
    (Registry.builds (T := T) host).resolve text = Registry.resolve host text := rfl

theorem builds_load (host : Host O) (v : Version) :
    (Registry.builds (T := T) host).load v = Registry.load v := rfl

/-- A compiler that is loaded is of the version that it is loaded for. -/
theorem fetch_run (host : Host O) (key : String) (v : Version) (shelf : Shelf)
    (s : Registry.At O T) : ∃ compiler t, compiler.version = v ∧
      fetch (Registry.builds host) key v shelf s =
        (.ok compiler, ({ shelf with loaded := Keyed.put key compiler shelf.loaded }, t)) := by
  have loads := Registry.load_run v s
  rw [fetch, builds_load]
  generalize (Registry.load v).run s = ends at loads ⊢
  obtain ⟨loaded, t⟩ := ends
  cases loads
  exact ⟨_, t, rfl, rfl⟩

theorem Stands.put_resolved (stands : Stands Fits shelf) {key : String} {v : Version}
    (fits : Fits key v) :
    Stands Fits { shelf with resolved := Keyed.put key v shelf.resolved } where
  resolved k w found := by
    rw [Keyed.get?_put] at found
    split at found
    · rename_i same
      cases found
      exact same ▸ fits
    · exact stands.resolved k w found
  loaded := stands.loaded

theorem Stands.put_loaded (stands : Stands Fits shelf) {key : String} {compiler : Compiler}
    (fits : Fits key compiler.version) :
    Stands Fits { shelf with loaded := Keyed.put key compiler shelf.loaded } where
  resolved := stands.resolved
  loaded k c found := by
    rw [Keyed.get?_put] at found
    split at found
    · rename_i same
      cases found
      exact same ▸ fits
    · exact stands.loaded k c found

theorem Stands.versioned {asks : List Ask} {r : Except Failure Version}
    {s' : Shelf × Registry.At O T} (stands : Stands Fits shelf)
    (chosen : ∀ key v, IsChosen O T key v → Fits key v) (final : Registry.IsFinal host s)
    (versioned : Versioned (Registry.builds host) spec shelf s asks r s') :
    Stands Fits s'.1 ∧ ∀ v, r = .ok v → Fits (Range.normalized spec) v := by
  cases versioned with
  | known there =>
    refine ⟨stands, ?_⟩
    rintro _ ⟨⟩
    exact stands.resolved _ _ there
  | found new ran =>
    rw [builds_resolve] at ran
    have fits := chosen _ _ ⟨host, s, final, by rw [ran]⟩
    refine ⟨stands.put_resolved fits, ?_⟩
    rintro _ ⟨⟩
    exact fits
  | missing new ran => exact ⟨stands, nofun⟩
  | failed new ran => exact ⟨stands, nofun⟩

/-- One request keeps what stands on a shelf, and answers with it. -/
theorem Stands.request (stands : Stands Fits shelf)
    (chosen : ∀ key v, IsChosen O T key v → Fits key v) (final : Registry.IsFinal host s)
    (spec : String) :
    Stands Fits ((resolve (Registry.builds host) spec).run (shelf, s)).2.1 ∧
      ∀ compiler, answer host shelf s spec = .ok compiler →
        Fits (Range.normalized spec) compiler.version := by
  have served := served (Registry.builds host) spec shelf s
  rw [answer]
  generalize asked (Registry.builds host) spec (shelf, s) = asks at served
  generalize (resolve (Registry.builds host) spec).run (shelf, s) = ran at served ⊢
  obtain ⟨r, s'⟩ := ran
  dsimp only at served ⊢
  cases served with
  | kept there =>
    refine ⟨stands, ?_⟩
    rintro _ ⟨⟩
    exact stands.loaded _ _ there
  | unversioned new versioned => exact ⟨(stands.versioned chosen final versioned).1, nofun⟩
  | loads new versioned ran =>
    obtain ⟨stands, fits⟩ := stands.versioned chosen final versioned
    have loads := congrArg Prod.fst ran
    rw [builds_load, Registry.load_run] at loads
    cases loads
    refine ⟨stands.put_loaded (fits _ rfl), ?_⟩
    rintro _ ⟨⟩
    exact fits _ rfl

/-- **What stands on a shelf was chosen for its key**, by induction on the requests. -/
theorem Grown.stands {start : Shelf} (grown : Grown O T start shelf) (stands : Stands Fits start)
    (chosen : ∀ key v, IsChosen O T key v → Fits key v) : Stands Fits shelf := by
  induction grown with
  | start => exact stands
  | request spec _ final ih => exact (ih.request chosen final spec).1

/-! ## A range for which nothing stands there -/

/-- Nothing stands on a shelf for a range. -/
structure IsFree (shelf : Shelf) (spec : String) : Prop where
  loaded : Keyed.get? (Range.normalized spec) shelf.loaded = none
  resolved : Keyed.get? (Range.normalized spec) shelf.resolved = none

/-- What is said of a range of that no version is known. -/
def versionOr (spec : String) : Option Version → Except Failure Version
  | some v => .ok v
  | none => .error (.unresolvedVersion spec)

/-- **For a range that is new the registry is asked for its key.** -/
theorem IsFree.version_answer (free : IsFree shelf spec) (host : Host O) (s : Registry.At O T) :
    (answer host shelf s spec).map Compiler.version =
      ((Registry.resolve host (Range.normalized spec)).run s).1.bind (versionOr spec) := by
  rw [answer, resolve_run, free.loaded]
  dsimp only
  rw [versionFor_run, free.resolved, builds_resolve]
  obtain ⟨found, t⟩ := (Registry.resolve host (Range.normalized spec)).run s
  cases found with
  | error e => rfl
  | ok v? =>
    cases v? with
    | none => rfl
    | some v =>
      dsimp only
      obtain ⟨compiler, t', rfl, fetched⟩ := fetch_run host (Range.normalized spec) v
        { shelf with resolved := Keyed.put (Range.normalized spec) v shelf.resolved } t
      rw [fetched]
      rfl

/-- A shelf answers for a range as the registry answers for some text. -/
structure Agrees (host : Host O) (shelf : Shelf) (s : Registry.At O T) (spec text : String) :
    Prop where
  found : ∀ v, (∃ compiler, answer host shelf s spec = .ok compiler ∧ compiler.version = v) ↔
    ((Registry.resolve host text).run s).1 = .ok (some v)
  missed : answer host shelf s spec = .error (.unresolvedVersion spec) ↔
    ((Registry.resolve host text).run s).1 = .ok none

theorem exists_version_iff {r : Except Failure Compiler} {v : Version} :
    (∃ compiler, r = .ok compiler ∧ compiler.version = v) ↔ r.map Compiler.version = .ok v := by
  cases r with
  | error e => exact ⟨nofun, nofun⟩
  | ok compiler =>
    refine ⟨?_, fun same => ⟨compiler, rfl, Except.ok.inj same⟩⟩
    rintro ⟨_, ⟨⟩, rfl⟩
    rfl

theorem map_eq_error_iff {r : Except Failure Compiler} {e : Failure} :
    r.map Compiler.version = .error e ↔ r = .error e := by
  cases r with
  | error e' => exact ⟨fun same => congrArg _ (Except.error.inj same), congrArg _⟩
  | ok compiler => exact ⟨nofun, nofun⟩

/-- An answer agrees with another one if both fail for a number that is too long, or if both choose
alike. -/
theorem agrees_iff (final : Registry.IsFinal host s) (free : IsFree shelf spec) (text : String) :
    Agrees host shelf s spec text ↔
      Range.isOverlong (Range.normalized spec) = Range.isOverlong text ∧
      (Range.isOverlong text = false →
        Registry.choose (Range.lets (Range.normalized spec)) s.2.installed host.installable =
          Registry.choose (Range.lets text) s.2.installed host.installable) := by
  have asked := free.version_answer host s
  have told := Registry.resolve_run text final
  rw [Registry.resolve_run _ final] at asked
  have same : Agrees host shelf s spec text ↔
      (∀ v, (answer host shelf s spec).map Compiler.version = .ok v ↔
        ((Registry.resolve host text).run s).1 = .ok (some v)) ∧
      ((answer host shelf s spec).map Compiler.version = .error (.unresolvedVersion spec) ↔
        ((Registry.resolve host text).run s).1 = .ok none) := by
    simp only [map_eq_error_iff, ← exists_version_iff]
    exact ⟨fun ⟨found, missed⟩ => ⟨found, missed⟩, fun ⟨found, missed⟩ => ⟨found, missed⟩⟩
  rw [same, asked, told]
  cases Range.isOverlong (Range.normalized spec) <;> cases Range.isOverlong text <;>
    cases Registry.choose (Range.lets (Range.normalized spec)) s.2.installed host.installable <;>
    cases Registry.choose (Range.lets text) s.2.installed host.installable <;>
    simp [Except.bind, versionOr]

/-! ## The answer for a range as it is written -/

/-- A range that every shelf that is new to it answers for as the registry does. -/
def IsTransparent (O T : Type) (spec : String) : Prop :=
  ∀ (host : Host O) (shelf : Shelf) (s : Registry.At O T), Registry.IsFinal host s →
    IsFree shelf spec → Agrees host shelf s spec spec

theorem choose_congr {lets lets' : Version → Bool} (final : Registry.IsFinal host s)
    (alike : ∀ v, v.IsFinal → lets v = lets' v) :
    Registry.choose lets s.2.installed host.installable =
      Registry.choose lets' s.2.installed host.installable := by
  rw [Registry.choose, Registry.choose,
    List.filter_congr fun v among => alike v (final.installed v among),
    List.filter_congr fun v among => alike v (final.installable v among)]

/-- A host that does nothing. -/
def idle (O : Type) : Host O where
  compile _ _ := throw .unsupported
  request _ := throw .unsupported
  spawn _ := throw .unsupported
  poll := throw .unsupported
  wait _ := throw .unsupported
  installable := []

def among [Inhabited O] [Inhabited T] (installed : List Version) : Registry.At O T :=
  ({ store := .null }, ⟨default, .empty, default, installed, [], []⟩)

/-- **A range is transparent if its key lets the same final releases through, and only then.** -/
theorem isTransparent_iff [Inhabited O] [Inhabited T] (spec : String) :
    IsTransparent O T spec ↔ Range.LetAlike (Range.normalized spec) spec := by
  constructor
  · intro transparent
    have final (vs : List Version) (finals : ∀ v ∈ vs, v.IsFinal) :
        Registry.IsFinal (idle O) (among (T := T) vs) := ⟨finals, nofun⟩
    have free : IsFree {} spec := ⟨rfl, rfl⟩
    have agrees (vs : List Version) (finals : ∀ v ∈ vs, v.IsFinal) :=
      (agrees_iff (final vs finals) free spec).mp (transparent _ _ _ (final vs finals) free)
    refine ⟨(agrees [] nofun).1, fun short v out => ?_⟩
    have same := (agrees [v] (by simpa using out)).2 short
    rw [show (among (O := O) (T := T) [v]).2.installed = [v] from rfl,
      show (idle O).installable = [] from rfl, Registry.choose_alone, Registry.choose_alone] at same
    revert same
    cases Range.lets (Range.normalized spec) v <;> cases Range.lets spec v <;> simp
  · rintro ⟨overlong, alike⟩ host shelf s final free
    exact (agrees_iff final free spec).mpr
      ⟨overlong, fun short => choose_congr final (alike short)⟩

/-- **A shelf answers for a range that is new to it as its registry does for the key of the range.**
That is the answer for the range itself just if both let the same final releases through: without a
caret at the start, or for one version, they do. -/
theorem resolve_transparent [Inhabited O] [Inhabited T] (spec : String) :
    (∀ (host : Host O) (shelf : Shelf) (s : Registry.At O T), Registry.IsFinal host s →
      IsFree shelf spec → Agrees host shelf s spec (Range.normalized spec)) ∧
    (∀ (host : Host O) (shelf : Shelf) (s : Registry.At O T) (compiler : Compiler),
      Registry.IsFinal host s → Grown O T {} shelf → answer host shelf s spec = .ok compiler →
        IsChosen O T (Range.normalized spec) compiler.version) ∧
    (IsTransparent O T spec ↔ Range.LetAlike (Range.normalized spec) spec) ∧
    ((Text.strip spec.toList).head? ≠ some '^' ∨ (Range.pinned? spec).isSome →
      IsTransparent O T spec) ∧
    ∀ q : Range.Conjunction, q.IsRange spec → q.first.sign = .caret →
      (IsTransparent O T spec ↔ (Range.pinned? spec).isSome ∨ Range.isOverlong spec = true ∨
        ∀ v, q.Takes v → v = q.first.first) := by
  refine ⟨?_, ?_, isTransparent_iff spec, ?_, ?_⟩
  · intro host shelf s final free
    exact (agrees_iff final free _).mpr ⟨rfl, fun _ => rfl⟩
  · intro host shelf s compiler final grown answered
    have empty : Stands (IsChosen O T) {} := ⟨nofun, nofun⟩
    have stands := grown.stands empty fun _ _ chosen => chosen
    exact (stands.request (fun _ _ chosen => chosen) final spec).2 compiler answered
  · rintro (other | pinned)
    · exact (isTransparent_iff spec).mpr (Range.letAlike_of_head? other)
    · exact (isTransparent_iff spec).mpr (Range.letAlike_of_pinned pinned)
  · intro q range caret
    exact (isTransparent_iff spec).trans (range.letAlike_iff caret)

def recent : Version := { release := [0, 8, 19] }

/-- A host that the release can be installed from. -/
def offering : Host Unit := { idle Unit with installable := [recent] }

/-- A series that begins with a caret has no compiler, though its newest release is installed. -/
theorem resolve_caret_series :
    Registry.IsFinal offering (among (T := Rat) [recent]) ∧ IsFree {} "^0.8" ∧
    answer offering {} (among (T := Rat) [recent]) "^0.8" = .error (.unresolvedVersion "^0.8") ∧
    ((Registry.resolve offering "^0.8").run (among (T := Rat) [recent])).1 = .ok (some recent) := by
  have out : ∀ v ∈ [recent], v.IsFinal := fun v there =>
    List.mem_singleton.mp there ▸ ⟨_, _, _, rfl⟩
  exact ⟨⟨out, out⟩, ⟨rfl, rfl⟩, rfl, rfl⟩

end SolidityRepl.Shelf
