import SolidityRepl.Compiler.Registry
import SolidityRepl.Proofs.Act
import SolidityRepl.Proofs.Version.Conjunction

/-!
# What registries choose

Among final releases a registry chooses the newest installed one that a range lets through, or else
the newest of those that can be installed.
-/

namespace SolidityRepl

namespace Version

theorem newest?_eq_none {vs : List Version} : newest? vs = none ↔ vs = [] := by
  cases vs with
  | nil => exact ⟨fun _ => rfl, fun _ => rfl⟩
  | cons v vs =>
    refine ⟨fun none => ?_, nofun⟩
    rw [newest?] at none
    split at none
    · cases none
    · split at none <;> cases none

theorem mem_of_newest? {vs : List Version} {v : Version} (newest : newest? vs = some v) :
    v ∈ vs := by
  induction vs with
  | nil => cases newest
  | cons w vs ih =>
    rw [newest?] at newest
    split at newest
    · cases newest
      exact List.mem_cons_self
    · rename_i u others
      split at newest
      · exact List.mem_cons_of_mem w (ih (others.trans newest))
      · cases newest
        exact List.mem_cons_self

/-- Of one version alone it is the newest. -/
theorem newest?_of_forall_eq {vs : List Version} {v : Version} (alike : ∀ w ∈ vs, w = v) :
    newest? vs = if vs.isEmpty then none else some v := by
  cases newest : newest? vs with
  | none =>
    rw [newest?_eq_none.mp newest]
    rfl
  | some w =>
    have among := mem_of_newest? newest
    have nonempty : vs.isEmpty = false := List.isEmpty_eq_false_iff_exists_mem.mpr ⟨w, among⟩
    rw [nonempty, alike w among]
    rfl

theorem IsFinal.eq_of_same {v w : Version} (final : v.IsFinal) (final' : w.IsFinal)
    (same : v.same w = true) : v = w := by
  have triples := (final.isRelease.same_iff final'.isRelease).mp same
  obtain ⟨x, y, z, rfl⟩ := final
  obtain ⟨x', y', z', rfl⟩ := final'
  cases triples
  rfl

theorem IsFinal.isPrerelease {v : Version} (final : v.IsFinal) : v.isPrerelease = false := by
  obtain ⟨x, y, z, rfl⟩ := final
  rfl

end Version

/-- Of versions that are out none is thrown out. -/
theorem Clause.filter_out {clauses : List Clause} {versions : List Version}
    (out' : ∀ v ∈ versions, v.isPrerelease = false) :
    Clause.filter clauses versions = versions.filter (Clause.acceptAll clauses) := by
  have out : (versions.filter (Clause.acceptAll clauses)).filter (fun v => !v.isPrerelease) =
      versions.filter (Clause.acceptAll clauses) := by
    rw [List.filter_eq_self]
    intro v among
    rw [out' v (List.mem_filter.mp among).1]
    rfl
  rw [Clause.filter]
  split
  · rfl
  · rw [out]
    split <;> simp_all

namespace Registry

open Version

variable {O T : Type}

/-- The newest of the installed versions that are let through, or else of those that can be
installed. -/
def choose (lets : Version → Bool) (installed installable : List Version) : Option Version :=
  (newest? (installed.filter lets)).or (newest? (installable.filter lets))

theorem choose_mem {lets : Version → Bool} {installed installable : List Version} {v : Version}
    (chosen : choose lets installed installable = some v) :
    (v ∈ installed ∨ v ∈ installable) ∧ lets v = true := by
  rw [choose, Option.or_eq_some_iff] at chosen
  obtain first | ⟨_, second⟩ := chosen
  · obtain ⟨among, fits⟩ := List.mem_filter.mp (mem_of_newest? first)
    exact ⟨.inl among, fits⟩
  · obtain ⟨among, fits⟩ := List.mem_filter.mp (mem_of_newest? second)
    exact ⟨.inr among, fits⟩

/-- With one release alone there is nothing else to choose. -/
theorem choose_alone (lets : Version → Bool) (v : Version) :
    choose lets [v] [] = if lets v then some v else none := by
  cases fits : lets v <;> simp [choose, newest?, fits]

/-- Final releases are offered as what they are. -/
theorem newest?_filter_same {versions : List Version} {v : Version} (final : v.IsFinal)
    (finals : ∀ w ∈ versions, w.IsFinal) :
    newest? (versions.filter v.same) = if offers versions v then some v else none := by
  have alike : ∀ w ∈ versions.filter v.same, w = v := by
    intro w among
    obtain ⟨there, same⟩ := List.mem_filter.mp among
    exact (final.eq_of_same (finals w there) same).symm
  rw [newest?_of_forall_eq alike]
  cases offered : offers versions v with
  | true =>
    obtain ⟨w, there, same⟩ := List.any_eq_true.mp offered
    have some : (versions.filter v.same).isEmpty = false :=
      List.isEmpty_eq_false_iff_exists_mem.mpr ⟨w, List.mem_filter.mpr ⟨there, same⟩⟩
    rw [some]
    rfl
  | false =>
    have none : versions.filter v.same = [] :=
      List.filter_eq_nil_iff.mpr fun w there => List.any_eq_false.mp offered w there
    rw [none]
    rfl

theorem run_installable (host : Host O) (s : At O T) : ∃ t,
    (installable host).run s = (.ok host.installable, t) := by
  rw [installable, Act.run_bind_ok (Act.run_get s)]
  dsimp only
  split
  · exact ⟨_, rfl⟩
  · exact ⟨_, rfl⟩

/-- Nothing but final releases is installed, and nothing else can be. -/
structure IsFinal (host : Host O) (s : At O T) : Prop where
  installed : ∀ v ∈ s.2.installed, v.IsFinal
  installable : ∀ v ∈ host.installable, v.IsFinal

/-- **Among final releases a registry chooses by what the range lets through.** -/
theorem resolve_run {host : Host O} {s : At O T} (spec : String)
    (final : IsFinal host s) :
    ((resolve host spec).run s).1 = if Range.isOverlong spec then .error .overlong
      else .ok (choose (Range.lets spec) s.2.installed host.installable) := by
  obtain ⟨installed, installable⟩ := final
  obtain ⟨t, listed⟩ := run_installable host s
  rw [resolve, Act.run_bind_ok (Act.run_get s)]
  cases Range.isOverlong spec with
  | true => rfl
  | false =>
    cases pinned : Range.pinned? spec with
    | some v =>
      have final := Range.isFinal_of_pinned? pinned
      have same : Range.lets spec = v.same := by
        funext w
        unfold Range.lets
        rw [pinned]
      rw [choose, same, newest?_filter_same final installed, newest?_filter_same final installable]
      dsimp only
      cases offers s.2.installed v with
      | true => rfl
      | false =>
        show ((Registry.installable host >>= fun vs => _).run s).1 = _
        rw [Act.run_bind_ok listed]
        cases offers host.installable v <;> rfl
    | none =>
      have meant : Range.lets spec = fun w =>
          ((Range.clauses? spec).map fun clauses => Clause.acceptAll clauses w).getD false := by
        funext w
        unfold Range.lets
        rw [pinned]
      rw [choose, meant]
      cases Range.clauses? spec with
      | none =>
        have nothing (vs : List Version) : vs.filter (fun _ => false) = [] :=
          List.filter_eq_nil_iff.mpr fun _ _ => Bool.false_ne_true
        simp only [Option.map_none, Option.getD_none, nothing]
        rfl
      | some clauses =>
        simp only [Option.map_some, Option.getD_some]
        rw [← Clause.filter_out fun v among => (installed v among).isPrerelease,
          ← Clause.filter_out fun v among => (installable v among).isPrerelease]
        cases newest? (Clause.filter clauses s.2.installed) with
        | some v => rfl
        | none =>
          show ((Registry.installable host >>= fun vs => _).run s).1 = _
          rw [Act.run_bind_ok listed]
          rfl

/-- A version that was found has a compiler. -/
theorem load_run (v : Version) (s : At O T) :
    ((load v).run s).1 = .ok { version := v, store := s.1.store } := by
  rw [load, Act.run_bind_ok (Act.run_get s)]
  dsimp only
  split <;> rfl

end Registry

end SolidityRepl
