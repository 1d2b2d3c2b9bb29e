import SolidityRepl.Proofs.Compiler.Shelf

/-!
# Where the stock of a shelf is from

A shelf starts with the installed version, if one is set. All other versions are those that its
registry found, and every compiler keeps its outputs in the folder of the registry that loaded it.
-/

namespace SolidityRepl

variable {O T : Type}

namespace Registry

variable {store : Json}

theorem installable_store (host : Host O) :
    Act.Keeps (fun s : At O T => s.1.store = store) (installable host) := by
  refine .bind .get fun s => ?_
  dsimp only
  split
  · exact .bind (fun _ kept => kept) fun _ => .bind (fun _ kept => kept) fun _ => .pure _
  · exact .pure _

/-- A registry that looks for a version keeps its folder. -/
theorem resolve_store (host : Host O) (spec : String) :
    Act.Keeps (fun s : At O T => s.1.store = store) (resolve host spec) := by
  refine .bind .get fun s => ?_
  dsimp only
  split
  · exact .throw_bind _ _
  cases Range.pinned? spec with
  | some v =>
    dsimp only
    split
    · exact .pure _
    · refine .bind (installable_store host) fun versions => ?_
      split <;> exact .pure _
  | none =>
    cases Range.clauses? spec with
    | none => exact .bind (fun _ kept => kept) fun _ => .pure _
    | some clauses =>
      dsimp only
      split
      · exact .pure _
      · exact .bind (installable_store host) fun _ => .pure _

/-- A compiler that is loaded keeps its outputs in the folder of the registry. -/
theorem load_ends (v : Version) (s : At O T) : ∃ t,
    (load v).run s = (.ok { version := v, store := s.1.store }, t) ∧ t.1 = s.1 := by
  rw [load, Act.run_bind_ok (Act.run_get s)]
  dsimp only
  split
  · exact ⟨_, rfl, rfl⟩
  · exact ⟨_, rfl, rfl⟩

end Registry

namespace Shelf

/-- A version that a registry of the host finds for a key, in some state of the world. -/
def IsFound (T : Type) (host : Host O) (key : String) (v : Version) : Prop :=
  ∃ s : Registry.At O T, ((Registry.resolve host key).run s).1 = .ok (some v)

/-- Versions for keys, of which one at most was not found by a registry: that of the installed
version, under its own key. -/
inductive Seeded (T : Type) (host : Host O) (resolved : Keyed Version) : Json → Prop
  | none (found : ∀ key v, Keyed.get? key resolved = some v → IsFound T host key v) :
      Seeded T host resolved .null
  | version {spec : String} {v : Version} (reads : Version.read (Range.normalized spec) = .ok v)
      (there : Keyed.get? (Range.normalized spec) resolved = some v)
      (found : ∀ key w, key ≠ Range.normalized spec → Keyed.get? key resolved = some w →
        IsFound T host key w) :
      Seeded T host resolved (.str spec)

/-- A shelf that was made for an installed version, with compilers that keep their outputs in one
folder. -/
structure Stocked (T : Type) (host : Host O) (store installed : Json) (shelf : Shelf) : Prop where
  seeded : Seeded T host shelf.resolved installed
  stores : ∀ key compiler, Keyed.get? key shelf.loaded = some compiler → compiler.store = store

variable {host : Host O} {store installed : Json} {shelf : Shelf}

theorem Seeded.put {resolved : Keyed Version} (seeded : Seeded T host resolved installed)
    {key : String} {v : Version} (new : Keyed.get? key resolved = .none)
    (found : IsFound T host key v) : Seeded T host (Keyed.put key v resolved) installed := by
  have others {k : String} {w : Version} (was : Keyed.get? k resolved = some w → IsFound T host k w)
      (there : Keyed.get? k (Keyed.put key v resolved) = some w) : IsFound T host k w := by
    rw [Keyed.get?_put] at there
    split at there
    · rename_i same
      cases there
      exact same ▸ found
    · exact was there
  cases seeded with
  | none were => exact .none fun k w => others (were k w)
  | @version spec w reads there were =>
    refine .version reads ?_ fun k u other => others (were k u other)
    rw [Keyed.get?_put, if_neg, there]
    rintro rfl
    rw [new] at there
    cases there

theorem ofInstalled_stocked (T : Type) (host : Host O) (store : Json)
    (made : ofInstalled installed = .ok shelf) : Stocked T host store installed shelf := by
  obtain ⟨rfl, rfl⟩ | ⟨spec, v, rfl, reads, rfl⟩ := ofInstalled_cases made
  · exact ⟨.none nofun, nofun⟩
  · refine ⟨.version reads (if_pos rfl) fun key w other there => ?_, nofun⟩
    rw [Keyed.get?, if_neg (Ne.symm other)] at there
    cases there

/-- A version that is found is put beside the others, and the registry keeps its folder. -/
theorem Stocked.versioned {s : Registry.At O T} {spec : String} {asks : List Ask}
    {r : Except Failure Version} {s' : Shelf × Registry.At O T}
    (stocked : Stocked T host store installed shelf) (own : s.1.store = store)
    (versioned : Versioned (Registry.builds host) spec shelf s asks r s') :
    Stocked T host store installed s'.1 ∧ s'.2.1.store = store := by
  cases versioned with
  | known there => exact ⟨stocked, own⟩
  | @found v t new ran =>
    rw [builds_resolve] at ran
    have kept := Registry.resolve_store host (Range.normalized spec) s own
    rw [ran] at kept
    exact ⟨⟨stocked.seeded.put new ⟨s, by rw [ran]⟩, stocked.stores⟩, kept⟩
  | missing new ran | failed new ran =>
    rw [builds_resolve] at ran
    have kept := Registry.resolve_store host (Range.normalized spec) s own
    rw [ran] at kept
    exact ⟨stocked, kept⟩

/-- **A request leaves a shelf stocked**, and the registry with its folder. -/
theorem Stocked.request {s : Registry.At O T} (stocked : Stocked T host s.1.store installed shelf)
    (spec : String) :
    let after := ((resolve (Registry.builds host) spec).run (shelf, s)).2
    Stocked T host s.1.store installed after.1 ∧ after.2.1.store = s.1.store := by
  have served := served (Registry.builds host) spec shelf s
  generalize asked (Registry.builds host) spec (shelf, s) = asks at served
  generalize (resolve (Registry.builds host) spec).run (shelf, s) = ran at served ⊢
  obtain ⟨r, s'⟩ := ran
  dsimp only at served ⊢
  cases served with
  | kept there => exact ⟨stocked, rfl⟩
  | unversioned new versioned => exact stocked.versioned rfl versioned
  | @loads asks v shelf' t u loaded new versioned ran =>
    obtain ⟨stocked, own⟩ := stocked.versioned rfl versioned
    obtain ⟨t', loads, same⟩ := Registry.load_ends v t
    rw [builds_load, loads] at ran
    cases ran
    refine ⟨⟨stocked.seeded, fun k compiler there => ?_⟩, by rw [same, own]⟩
    rw [keeping, Keyed.get?_put] at there
    split at there
    · cases there
      exact own
    · exact stocked.stores k compiler there

end Shelf

end SolidityRepl
