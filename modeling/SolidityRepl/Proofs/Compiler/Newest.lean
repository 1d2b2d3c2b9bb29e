import SolidityRepl.Proofs.Compiler.Shelf
import SolidityRepl.Proofs.Version.Exact
import SolidityRepl.Proofs.Version.Order

/-!
# The newest version, and the list of versions

Among plain versions a registry finds the one that a range names, or else the newest of those that
the range lets through, installed ones first. What can be installed is listed when no installed
version answers, and once at most.

* `Version.rank_le_of_newest?`: no version has a later place than the newest;
* `Chosen`, `Resolved`: what a registry answers;
* `Counted`, `counted_calls`: how often it lists the versions that can be installed;
* `resolve_newest`: both together.
-/

namespace SolidityRepl

open Version (rank)

/-- **No version has a later place than the newest**, by induction on the versions. -/
theorem Version.rank_le_of_newest? {vs : List Version} {v : Version}
    (plain : ∀ w ∈ vs, w.isPlain = true) (newest : newest? vs = some v) :
    ∀ w ∈ vs, rank w ≤ rank v := by
  induction vs generalizing v with
  | nil => cases newest
  | cons first rest ih =>
    have own := plain first List.mem_cons_self
    have others : ∀ w ∈ rest, w.isPlain = true := fun w among =>
      plain w (List.mem_cons_of_mem first among)
    rw [newest?] at newest
    cases later : newest? rest with
    | none =>
      rw [later] at newest
      cases newest
      rw [newest?_eq_none.mp later]
      exact List.forall_mem_singleton.mpr (le_refl _)
    | some best =>
      have most := ih others later
      have order := before_iff_rank own (others best (mem_of_newest? later))
      rw [later] at newest
      by_cases less : first.before best = true
      · simp only [less, if_true] at newest
        cases newest
        exact List.forall_mem_cons.mpr ⟨le_of_lt (order.mp less), most⟩
      · simp only [if_neg less] at newest
        cases newest
        have least : rank best ≤ rank first := not_lt.mp fun before => less (order.mpr before)
        exact List.forall_mem_cons.mpr ⟨le_refl _, fun w there => (most w there).trans least⟩

namespace Registry

open Version Range Text

variable {O T : Type}

/-! ## What a registry answers -/

/-- The versions that are installed and those that can be are plain. -/
structure IsPlain (host : Host O) (s : At O T) : Prop where
  installed : ∀ v ∈ s.2.installed, v.isPlain = true
  installable : ∀ v ∈ host.installable, v.isPlain = true

/-- A version that is let through, and that no other one exceeds. -/
structure IsNewest (lets : Version → Bool) (versions : List Version) (v : Version) : Prop where
  listed : v ∈ versions
  fits : lets v = true
  most : ∀ w ∈ versions, lets w = true → rank w ≤ rank v

/-- The choice between two lists: the newest of the first one, or else of the second, or else
nothing, since nothing is let through. -/
def Chosen (lets : Version → Bool) (first second : List Version) : Option Version → Prop
  | some v => IsNewest lets first v ∨ (∀ w ∈ first, lets w = false) ∧ IsNewest lets second v
  | none => (∀ w ∈ first, lets w = false) ∧ ∀ w ∈ second, lets w = false

/-- What a registry answers to a range: the version that it names, if there is one like it; the
newest that it lets through; nothing, if it is no range; and a failure, if it has a number with too
many digits. -/
structure Resolved (host : Host O) (s : At O T) (spec : String)
    (r : Except Failure (Option Version)) : Prop where
  exact : ∀ x y z, Names spec x y z → (∀ n ∈ [x, y, z], n.digits.length ≤ mostDigits) →
    r = .ok (some (release x y z)) ∧
        (∃ w ∈ s.2.installed ++ host.installable, rank w = rank (release x y z)) ∨
      r = .ok none ∧ ∀ w ∈ s.2.installed ++ host.installable, rank w ≠ rank (release x y z)
  range : (∀ x y z, ¬Names spec x y z) → ∀ clauses, specifier spec = .ok clauses →
    ∃ answer, r = .ok answer ∧
      Chosen (Clause.acceptAll clauses) s.2.installed host.installable answer
  unclear : (∀ x y z, ¬Names spec x y z) → specifier spec = .error .badSpecifier → r = .ok none
  overlong : (∃ x y z, Names spec x y z ∧ ∃ n ∈ [x, y, z], mostDigits < n.digits.length) ∨
    (∀ x y z, ¬Names spec x y z) ∧ specifier spec = .error .overlong → r = .error .overlong

def Answers (spec : String) (w : Version) : Prop :=
  (∃ x y z, Names spec x y z ∧ rank w = rank (release x y z)) ∨
    (∀ x y z, ¬Names spec x y z) ∧
      ∃ clauses, specifier spec = .ok clauses ∧ Clause.acceptAll clauses w = true

/-- Versions are offered that have the same place. -/
theorem offers_iff {versions : List Version} {v : Version} (own : v.isPlain = true)
    (plain : ∀ w ∈ versions, w.isPlain = true) :
    offers versions v = true ↔ ∃ w ∈ versions, rank w = rank v := by
  rw [offers, List.any_eq_true]
  constructor
  · rintro ⟨w, among, same⟩
    exact ⟨w, among, ((same_iff_rank own (plain w among)).mp same).symm⟩
  · rintro ⟨w, among, same⟩
    exact ⟨w, among, (same_iff_rank own (plain w among)).mpr same.symm⟩

theorem isPlain_release (x y z : Numeral) : (release x y z).isPlain = true := rfl

theorem isPrerelease_of_isPlain {v : Version} (plain : v.isPlain = true) :
    v.isPrerelease = false := by
  obtain ⟨stage, -, dev, -⟩ := unmarked_of_isPlain plain
  rw [isPrerelease, stage, dev]
  rfl

/-- Of plain versions the newest that fits is not exceeded. -/
theorem newest?_filter (clauses : List Clause) {versions : List Version}
    (plain : ∀ v ∈ versions, v.isPlain = true) :
    (∀ v, newest? (Clause.filter clauses versions) = some v →
      IsNewest (Clause.acceptAll clauses) versions v) ∧
    (newest? (Clause.filter clauses versions) = none →
      ∀ w ∈ versions, Clause.acceptAll clauses w = false) := by
  rw [Clause.filter_out fun v among => isPrerelease_of_isPlain (plain v among)]
  constructor
  · intro v newest
    obtain ⟨listed, fits⟩ := List.mem_filter.mp (mem_of_newest? newest)
    refine ⟨listed, fits, ?_⟩
    intro w among fits'
    have fitting : ∀ u ∈ versions.filter (Clause.acceptAll clauses), u.isPlain = true :=
      fun u there => plain u (List.mem_filter.mp there).1
    exact rank_le_of_newest? fitting newest w (List.mem_filter.mpr ⟨among, fits'⟩)
  · intro none w among
    have unfit := List.filter_eq_nil_iff.mp (newest?_eq_none.mp none) w among
    exact Bool.eq_false_iff.mpr unfit

/-! ## How a registry comes to its answer -/

/-- The state after the versions that can be installed were asked for. -/
def asked (host : Host O) (s : At O T) : At O T := ((installable host).run s).2

theorem installable_run (host : Host O) (s : At O T) :
    (installable host).run s = (.ok host.installable, asked host s) := by
  obtain ⟨t, listed⟩ := run_installable host s
  rw [asked, listed]

section

variable {host : Host O} {s : At O T} {spec : String} {v : Version} {clauses : List Clause}

theorem resolve_overlong (host : Host O) (s : At O T) (overlong : Range.isOverlong spec = true) :
    (resolve host spec).run s = (.error .overlong, s) := by
  rw [resolve, Act.run_bind_ok (Act.run_get s), overlong]
  rfl

/-- A named version that is installed is the answer. -/
theorem resolve_named (host : Host O) (readable : Range.isOverlong spec = false)
    (pinned : pinned? spec = some v) (offered : offers s.2.installed v = true) :
    (resolve host spec).run s = (.ok (some v), s) := by
  rw [resolve, Act.run_bind_ok (Act.run_get s), readable, pinned]
  dsimp only
  rw [offered]
  rfl

/-- Any other one is looked for among those that can be installed. -/
theorem resolve_unnamed (host : Host O) (readable : Range.isOverlong spec = false)
    (pinned : pinned? spec = some v) (missing : offers s.2.installed v = false) :
    (resolve host spec).run s =
      (.ok (if offers host.installable v then some v else none), asked host s) := by
  rw [resolve, Act.run_bind_ok (Act.run_get s), readable, pinned]
  dsimp only
  rw [missing]
  show (Registry.installable host >>= fun vs => _).run s = _
  rw [Act.run_bind_ok (installable_run host s)]
  cases offers host.installable v <;> rfl

/-- What is no range is remarked on. -/
theorem resolve_unclear (host : Host O) (s : At O T) (readable : Range.isOverlong spec = false)
    (unpinned : pinned? spec = none) (unclear : clauses? spec = none) :
    (resolve host spec).run s =
      (.ok none, ((inWorld (World.note (.unclearRange spec))).run s).2) := by
  rw [resolve, Act.run_bind_ok (Act.run_get s), readable, unpinned]
  dsimp only
  rw [unclear]
  rfl

/-- The newest installed version that is let through is the answer. -/
theorem resolve_installed (host : Host O) (readable : Range.isOverlong spec = false)
    (unpinned : pinned? spec = none) (range : clauses? spec = some clauses)
    (newest : newest? (Clause.filter clauses s.2.installed) = some v) :
    (resolve host spec).run s = (.ok (some v), s) := by
  rw [resolve, Act.run_bind_ok (Act.run_get s), readable, unpinned]
  dsimp only
  rw [range]
  dsimp only
  rw [newest]
  rfl

/-- If there is none, it is the newest that can be installed. -/
theorem resolve_other (readable : Range.isOverlong spec = false)
    (unpinned : pinned? spec = none) (range : clauses? spec = some clauses)
    (none : newest? (Clause.filter clauses s.2.installed) = none) :
    (resolve host spec).run s =
      (.ok (newest? (Clause.filter clauses host.installable)), asked host s) := by
  rw [resolve, Act.run_bind_ok (Act.run_get s), readable, unpinned]
  dsimp only
  rw [range]
  dsimp only
  rw [none]
  show (Registry.installable host >>= fun vs => _).run s = _
  rw [Act.run_bind_ok (installable_run host s)]
  rfl

theorem clauses_of_specifier (read : specifier spec = .ok clauses) :
    clauses? spec = some clauses ∧ clauses.any Clause.isOverlong = false := by
  rw [specifier] at read
  split at read
  · cases read
  · rename_i found
    split at read
    · cases read
    · rename_i short
      cases read
      exact ⟨found, Bool.eq_false_iff.mpr short⟩

theorem unclear_of_specifier (unread : specifier spec = .error .badSpecifier) :
    clauses? spec = none := by
  rw [specifier] at unread
  split at unread
  · assumption
  · split at unread <;> cases unread

/-- A range that can be read, or is none, is not too long. -/
theorem readable_of_specifier (unpinned : pinned? spec = none) {r : Except Failure (List Clause)}
    (read : specifier spec = r) (other : r ≠ .error .overlong) :
    Range.isOverlong spec = false := by
  rw [Bool.eq_false_iff]
  intro overlong
  exact other (read.symm.trans ((isOverlong_of_unpinned unpinned).mp overlong))

end

/-- A named version is found if there is one like it. -/
theorem resolve_exact {host : Host O} {s : At O T} {spec : String} {x y z : Numeral}
    (plain : IsPlain host s) (names : Names spec x y z)
    (short : ∀ n ∈ [x, y, z], n.digits.length ≤ mostDigits) :
    let r := ((resolve host spec).run s).1
    r = .ok (some (release x y z)) ∧
        (∃ w ∈ s.2.installed ++ host.installable, rank w = rank (release x y z)) ∨
      r = .ok none ∧ ∀ w ∈ s.2.installed ++ host.installable, rank w ≠ rank (release x y z) := by
  have pinned := pinned?_eq_some.mpr ⟨x, y, z, names, rfl⟩
  have readable : Range.isOverlong spec = false := by
    rw [Bool.eq_false_iff]
    intro overlong
    obtain ⟨n, own, long⟩ := (isOverlong_of_names names).mp overlong
    exact absurd (short n own) (Nat.not_le.mpr long)
  have here := offers_iff (isPlain_release x y z) plain.installed
  have there := offers_iff (isPlain_release x y z) plain.installable
  cases installed : offers s.2.installed (release x y z) with
  | true =>
    obtain ⟨w, among, same⟩ := here.mp installed
    refine .inl ⟨?_, w, List.mem_append_left _ among, same⟩
    rw [resolve_named host readable pinned installed]
  | false =>
    have run := resolve_unnamed host readable pinned installed
    cases offered : offers host.installable (release x y z) with
    | true =>
      rw [offered] at run
      obtain ⟨w, among, same⟩ := there.mp offered
      refine .inl ⟨?_, w, List.mem_append_right _ among, same⟩
      rw [run]
      rfl
    | false =>
      rw [offered] at run
      refine .inr ⟨by rw [run]; rfl, ?_⟩
      intro w among same
      rcases List.mem_append.mp among with among | among
      · exact Bool.false_ne_true (installed.symm.trans (here.mpr ⟨w, among, same⟩))
      · exact Bool.false_ne_true (offered.symm.trans (there.mpr ⟨w, among, same⟩))

/-- Of a range the newest version is found. -/
theorem resolve_range {host : Host O} {s : At O T} {spec : String} {clauses : List Clause}
    (plain : IsPlain host s) (unpinned : pinned? spec = none)
    (read : specifier spec = .ok clauses) :
    ∃ answer, ((resolve host spec).run s).1 = .ok answer ∧
      Chosen (Clause.acceptAll clauses) s.2.installed host.installable answer := by
  obtain ⟨range, -⟩ := clauses_of_specifier read
  have readable := readable_of_specifier unpinned read (by simp)
  obtain ⟨newestHere, noneHere⟩ := newest?_filter clauses plain.installed
  obtain ⟨newestThere, noneThere⟩ := newest?_filter clauses plain.installable
  cases newest : newest? (Clause.filter clauses s.2.installed) with
  | some v =>
    refine ⟨some v, ?_, .inl (newestHere v newest)⟩
    rw [resolve_installed host readable unpinned range newest]
  | none =>
    have none := noneHere newest
    refine ⟨newest? (Clause.filter clauses host.installable), ?_, ?_⟩
    · rw [resolve_other readable unpinned range newest]
    · cases other : newest? (Clause.filter clauses host.installable) with
      | some v => exact .inr ⟨none, newestThere v other⟩
      | none => exact ⟨none, noneThere other⟩

/-- **Among plain versions a registry answers with the newest.** -/
theorem resolve_resolved {host : Host O} {s : At O T} (plain : IsPlain host s) (spec : String) :
    Resolved host s spec ((resolve host spec).run s).1 where
  exact x y z names short := resolve_exact plain names short
  range unnamed clauses read := resolve_range plain (pinned?_eq_none.mpr unnamed) read
  unclear unnamed unread := by
    have unpinned := pinned?_eq_none.mpr unnamed
    have readable := readable_of_specifier unpinned unread (by simp)
    rw [resolve_unclear host s readable unpinned (unclear_of_specifier unread)]
  overlong long := by
    have overlong : Range.isOverlong spec = true := by
      rcases long with ⟨x, y, z, names, long⟩ | ⟨unnamed, unread⟩
      · exact (isOverlong_of_names names).mpr long
      · exact (isOverlong_of_unpinned (pinned?_eq_none.mpr unnamed)).mpr unread
    rw [resolve_overlong host s overlong]

/-! ## How often versions are listed -/

def isListing : Event T → Bool
  | .listed => true
  | _ => false

def listings (w : World O T) : Nat := w.journal.countP isListing

/-- Between two states the versions were listed once if the registry had not listed them before and
has after that, and otherwise not at all. -/
def Counted (s t : At O T) : Prop :=
  listings t.2 + s.1.listed.toNat = listings s.2 + t.1.listed.toNat

theorem Counted.trans {s t u : At O T} (first : Counted s t) (second : Counted t u) :
    Counted s u := by
  unfold Counted at first second ⊢
  omega

theorem listings_record (w : World O T) (event : Event T) :
    listings ((World.record event).run w).2 = listings w + (isListing event).toNat := by
  show (w.journal ++ [event]).countP isListing = _
  rw [List.countP_append, List.countP_singleton]
  cases isListing event <;> rfl

/-- The list is asked for by a registry that does not have it. -/
theorem asked_eq (host : Host O) (registry : Registry) (world : World O T) :
    asked host (registry, world) = if registry.listed then (registry, world)
      else ({ registry with listed := true }, ((World.record .listed).run world).2) := by
  rw [asked, installable, Act.run_bind_ok (Act.run_get _)]
  cases known : registry.listed with
  | true => simp only [known]; rfl
  | false => simp only [known]; rfl

theorem counted_asked (host : Host O) (s : At O T) : Counted s (asked host s) := by
  obtain ⟨registry, world⟩ := s
  rw [Counted, asked_eq]
  cases known : registry.listed with
  | true =>
    rw [if_pos rfl]
    exact congrArg (listings world + ·.toNat) known.symm
  | false => exact listings_record world (.listed : Event T)

theorem counted_noted (s : At O T) (notice : Notice) :
    Counted s ((inWorld (World.note notice)).run s).2 := by
  have none := listings_record s.2 (.noted notice : Event T)
  show listings ((World.record (.noted notice)).run s.2).2 + _ = _
  rw [none]
  rfl

inductive Call where
  | resolve (spec : String)
  | installable
  | load (v : Version)

def Call.after (host : Host O) (s : At O T) : Call → At O T
  | .resolve spec => ((Registry.resolve host spec).run s).2
  | .installable => ((Registry.installable host).run s).2
  | .load v => ((Registry.load v).run s).2

def after (host : Host O) (calls : List Call) (s : At O T) : At O T :=
  calls.foldl (Call.after host) s

/-- All that a search may do is to list versions, or to remark on a range that is none. -/
theorem resolve_after (host : Host O) (s : At O T) (spec : String) :
    let t := ((resolve host spec).run s).2
    t = s ∨ t = asked host s ∨ t = ((inWorld (World.note (.unclearRange spec))).run s).2 := by
  cases readable : Range.isOverlong spec with
  | true => exact .inl (congrArg Prod.snd (resolve_overlong host s readable))
  | false =>
    cases pinned : pinned? spec with
    | some v =>
      cases offered : offers s.2.installed v with
      | true => exact .inl (congrArg Prod.snd (resolve_named host readable pinned offered))
      | false =>
        exact .inr (.inl (congrArg Prod.snd (resolve_unnamed host readable pinned offered)))
    | none =>
      cases range : clauses? spec with
      | none => exact .inr (.inr (congrArg Prod.snd (resolve_unclear host s readable pinned range)))
      | some clauses =>
        cases newest : newest? (Clause.filter clauses s.2.installed) with
        | some v =>
          exact .inl (congrArg Prod.snd (resolve_installed host readable pinned range newest))
        | none =>
          exact .inr (.inl (congrArg Prod.snd (resolve_other readable pinned range newest)))

/-- One call lists the versions once at most. -/
theorem counted_call (host : Host O) (s : At O T) (call : Call) :
    Counted s (call.after host s) := by
  cases call with
  | resolve spec =>
    obtain same | listed | noted := resolve_after host s spec
    · rw [Call.after, same]
      exact rfl
    · rw [Call.after, listed]
      exact counted_asked host s
    · rw [Call.after, noted]
      exact counted_noted s _
  | installable => exact counted_asked host s
  | load v =>
    obtain ⟨registry, world⟩ := s
    rw [Call.after, load, Act.run_bind_ok (Act.run_get _)]
    cases offered : offers world.installed v with
    | true => simp [offered, Counted]
    | false =>
      have noted := listings_record world (.noted (.installing v) : Event T)
      have installed := listings_record ((World.note (.installing v)).run world).2
        (.installed v : Event T)
      simp only [isListing] at noted installed
      simp only [offered, Counted]
      exact congrArg (· + registry.listed.toNat) (installed.trans noted)

/-- **However often a registry is called, it lists the versions once at most**, by induction on the
calls. -/
theorem counted_calls (host : Host O) (calls : List Call) (s : At O T) :
    Counted s (after host calls s) := by
  induction calls generalizing s with
  | nil => exact rfl
  | cons call calls ih => exact (counted_call host s call).trans (ih (call.after host s))

/-- **What an installed version answers is answered without a look at the list**, and without
anything else being done. -/
theorem resolve_at_hand {host : Host O} {s : At O T} {spec : String} {w : Version}
    (plain : IsPlain host s) (installed : w ∈ s.2.installed) (answers : Answers spec w) :
    ((resolve host spec).run s).2 = s := by
  cases readable : Range.isOverlong spec with
  | true => rw [resolve_overlong host s readable]
  | false =>
    rcases answers with ⟨x, y, z, names, same⟩ | ⟨unnamed, clauses, read, fits⟩
    · have pinned := pinned?_eq_some.mpr ⟨x, y, z, names, rfl⟩
      have offered := (offers_iff (isPlain_release x y z) plain.installed).mpr ⟨w, installed, same⟩
      rw [resolve_named host readable pinned offered]
    · obtain ⟨range, -⟩ := clauses_of_specifier read
      cases newest : newest? (Clause.filter clauses s.2.installed) with
      | none =>
        have unfit := (newest?_filter clauses plain.installed).2 newest w installed
        rw [fits] at unfit
        cases unfit
      | some v =>
        rw [resolve_installed host readable (pinned?_eq_none.mpr unnamed) range newest]

/-- **A registry of plain versions answers with the newest, installed ones first.** The versions
that can be installed are listed once at most in all its calls, and not by one that an installed
version answers. -/
theorem resolve_newest {host : Host O} {s : At O T} (plain : IsPlain host s) (spec : String)
    (calls : List Call) :
    Resolved host s spec ((resolve host spec).run s).1 ∧
    (∀ w ∈ s.2.installed, Answers spec w → ((resolve host spec).run s).2 = s) ∧
    listings (after host calls s).2 ≤ listings s.2 + (if s.1.listed then 0 else 1) := by
  refine ⟨resolve_resolved plain spec, ?_, ?_⟩
  · intro w installed answers
    exact resolve_at_hand plain installed answers
  · have counted := counted_calls host calls s
    have most : (after host calls s).1.listed.toNat ≤ 1 := Bool.toNat_le _
    unfold Counted at counted
    cases known : s.1.listed with
    | true =>
      simp only [known, Bool.toNat_true, if_true] at counted ⊢
      omega
    | false =>
      simp only [known, Bool.toNat_false, Bool.false_eq_true, if_false] at counted ⊢
      omega

/-! ## Two searches -/

/-- Two releases that are installed, the newer one second. -/
def stocked : At Unit Rat := Shelf.among [{ release := [0, 8, 9] }, { release := [0, 8, 10] }]

/-- A host that one more can be installed from. -/
def supplied : Host Unit := { Shelf.idle Unit with installable := [{ release := [0, 8, 26] }] }

theorem supplied_isPlain : IsPlain supplied stocked := by
  constructor
  · intro v among
    rcases List.mem_cons.mp among with rfl | among
    · rfl
    · rw [List.mem_singleton.mp among]
      rfl
  · intro v among
    rw [List.mem_singleton.mp among]
    rfl

theorem resolve_newest_stocked :
    IsPlain supplied stocked ∧
    ((resolve supplied ">=0.8.0 <0.9.0").run stocked).1 = .ok (some { release := [0, 8, 10] }) ∧
    Resolved supplied stocked ">=0.8.0 <0.9.0"
      ((resolve supplied ">=0.8.0 <0.9.0").run stocked).1 ∧
    listings (after supplied [.resolve "0.8.26", .resolve "^0.8.27", .installable] stocked).2 ≤
      listings stocked.2 + 1 := by
  obtain ⟨resolved, -, once⟩ := resolve_newest supplied_isPlain ">=0.8.0 <0.9.0"
    [.resolve "0.8.26", .resolve "^0.8.27", .installable]
  exact ⟨supplied_isPlain, rfl, resolved, once⟩

/-- A release of the series 0.8 with a given last number. -/
def ofSeries (n : Numeral) : String := String.ofList (dotted zero eight n)

theorem names_ofSeries (n : Numeral) : Names (ofSeries n) zero eight n := by
  refine ⟨[], [], [], [], [], [], blank_nil, blank_nil, blank_nil, .inl rfl, .inl rfl, .inl rfl, ?_⟩
  rw [ofSeries, String.toList_ofList]
  simp only [List.nil_append, List.append_nil]

theorem resolve_ofSeries {n : Numeral} (long : mostDigits < n.digits.length) :
    (resolve supplied (ofSeries n)).run stocked = (.error .overlong, stocked) :=
  resolve_overlong supplied stocked
    ((isOverlong_of_names (names_ofSeries n)).mpr ⟨n, by simp, long⟩)

/-- A release with a number of too many digits is in neither list, and yet there is no answer. -/
theorem resolve_ones :
    Names (ofSeries ones) zero eight ones ∧
    (resolve supplied (ofSeries ones)).run stocked = (.error .overlong, stocked) := by
  refine ⟨names_ofSeries ones, resolve_ofSeries ?_⟩
  rw [ones, List.length_replicate]
  exact Nat.lt_succ_self mostDigits

end Registry

end SolidityRepl
