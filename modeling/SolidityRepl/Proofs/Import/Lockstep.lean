import SolidityRepl.Proofs.Act
import SolidityRepl.Proofs.Import.Gathering

/-!
# Gathering in related worlds

Sources are gathered in the same way in any two worlds in which whoever is asked for imports answers
in the same way, so that what is gathered does not depend on what the answers do not depend on.
-/

namespace SolidityRepl.Import

variable {W : Type} {R : W → W → Prop} {lookUp : String → Act W Answer}

namespace Gathering

theorem want_lockstep (asks : ∀ name, (lookUp name).Lockstep R) (g : Gathering) (name : String) :
    (want lookUp g name).Lockstep R := by
  rw [want]
  split
  · exact Act.lockstep_const (.ok g) fun _ => rfl
  · refine (asks name).bind fun answer => ?_
    cases answer with
    | found text => exact Act.lockstep_const (.ok (g.add name text)) fun _ => rfl
    | refused why => exact Act.lockstep_const (.ok g) fun _ => rfl

theorem wantAll_lockstep (asks : ∀ name, (lookUp name).Lockstep R) (importer : String)
    (g : Gathering) (paths : List String) : (wantAll lookUp importer g paths).Lockstep R := by
  induction paths generalizing g with
  | nil => exact Act.lockstep_const (.ok g) fun _ => rfl
  | cons path more ih =>
    rw [wantAll]
    have named : (Act.ofExcept (unitName importer path)).Lockstep R :=
      Act.lockstep_const (unitName importer path) fun _ => rfl
    exact named.bind fun name => (want_lockstep asks g name).bind ih

theorem visit_lockstep (asks : ∀ name, (lookUp name).Lockstep R) (g : Gathering)
    (unit : String × Json) : (visit lookUp g unit).Lockstep R := by
  rw [visit]
  refine Act.Lockstep.bind (Act.lockstep_const (textOf unit.2) fun _ => rfl) fun text => ?_
  exact wantAll_lockstep asks unit.1 g (pathsOf text)

/-- A run that ends in one world ends in all that are related to it. -/
theorem ends_of_related (asks : ∀ name, (lookUp name).Lockstep R) {g : Gathering} {w u : W}
    (ends : Acc (Follows lookUp) (g, w)) (related : R w u) : Acc (Follows lookUp) (g, u) := by
  generalize start : (g, w) = now at ends
  induction ends generalizing g w u with
  | intro now _ ih =>
    subst start
    refine .intro _ ?_
    rintro ⟨g', u'⟩ ⟨unit, pending, waiting, visited⟩
    obtain ⟨same, related'⟩ := visit_lockstep asks { g with pending } unit w u related
    cases ran : (visit lookUp { g with pending } unit).run w with
    | mk r w' =>
      rw [ran, visited] at same related'
      obtain rfl : r = .ok g' := same
      exact ih (g', w') ⟨unit, pending, waiting, ran⟩ related' rfl

/-- **Runs are the same in related worlds**, by induction on the units that are looked through. -/
theorem run_lockstep (asks : ∀ name, (lookUp name).Lockstep R) {g : Gathering} {w u : W}
    (ends : Acc (Follows lookUp) (g, w)) (related : R w u) :
    (run lookUp g w).1 = (run lookUp g u).1 ∧ R (run lookUp g w).2 (run lookUp g u).2 := by
  generalize start : (g, w) = now at ends
  induction ends generalizing g w u with
  | intro now ends ih =>
    subst start
    have ends : Acc (Follows lookUp) (g, w) := .intro _ ends
    have ends' : Acc (Follows lookUp) (g, u) := ends_of_related asks ends related
    cases waiting : g.pending with
    | nil =>
      rw [run_done ends waiting, run_done ends' waiting]
      exact ⟨rfl, related⟩
    | cons unit pending =>
      obtain ⟨same, related'⟩ := visit_lockstep asks { g with pending } unit w u related
      cases visited : (visit lookUp { g with pending } unit).run w with
      | mk r w' =>
        cases visited' : (visit lookUp { g with pending } unit).run u with
        | mk r' u' =>
          rw [visited, visited'] at same related'
          obtain rfl : r = r' := same
          cases r with
          | ok g' =>
            rw [run_visited ends waiting visited, run_visited ends' waiting visited']
            exact ih (g', w') ⟨unit, pending, waiting, visited⟩ related' rfl
          | error e =>
            rw [run_failed ends waiting visited, run_failed ends' waiting visited']
            exact ⟨rfl, related'⟩

end Gathering

/-- Gathering the sources ends. If nobody can be asked for imports, it is not begun. -/
def Ends (lookUp : Option (String → Act W Answer)) (sources : Keyed Json) (w : W) : Prop :=
  ∀ l ∈ lookUp, Acc (Gathering.Follows l) (Gathering.start sources, w)

/-- **The same sources are gathered in related worlds.** -/
theorem gather_lockstep {lookUp : Option (String → Act W Answer)}
    (asks : ∀ l ∈ lookUp, ∀ name, (l name).Lockstep R) {sources : Keyed Json} {w u : W}
    (ends : Ends lookUp sources w) (related : R w u) :
    ((gather lookUp sources).run w).1 = ((gather lookUp sources).run u).1 ∧
      R ((gather lookUp sources).run w).2 ((gather lookUp sources).run u).2 := by
  cases lookUp with
  | none => exact ⟨rfl, related⟩
  | some l =>
    obtain ⟨same, related'⟩ := Gathering.run_lockstep (asks l rfl) (ends l rfl) related
    rw [run_gather, run_gather, same]
    exact ⟨rfl, related'⟩

end SolidityRepl.Import
