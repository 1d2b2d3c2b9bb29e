import SolidityRepl.Failure

/-!
# Running acts

What the pieces of an act do to the state, so that no later proof looks inside of `Act.run`.
-/

namespace SolidityRepl.Act

variable {σ τ α β : Type}

@[simp] theorem run_get (s : σ) : (get : Act σ σ).run s = (.ok s, s) := rfl

@[simp] theorem run_modify (change : σ → σ) (s : σ) :
    (modify change : Act σ Unit).run s = (.ok (), change s) := rfl

@[simp] theorem run_ofExcept (r : Except Failure α) (s : σ) :
    (ofExcept r : Act σ α).run s = (r, s) := rfl

@[simp] theorem run_zoom (part : σ → τ) (put : τ → σ → σ) (act : Act τ α) (s : σ) :
    (zoom part put act).run s = ((act.run (part s)).1, put (act.run (part s)).2 s) := rfl

@[simp] theorem run_attempt (act : Act σ α) (s : σ) :
    (attempt act).run s = (.ok (act.run s).1, (act.run s).2) := rfl

/-- After an act that succeeds the next one goes on from where it ended. -/
theorem run_bind_ok {act : Act σ α} {next : α → Act σ β} {s t : σ} {a : α}
    (h : act.run s = (.ok a, t)) : (act >>= next).run s = (next a).run t := by
  rw [run_bind, h]

/-- After an act that fails nothing follows. -/
theorem run_bind_error {act : Act σ α} {next : α → Act σ β} {s t : σ} {e : Failure}
    (h : act.run s = (.error e, t)) : (act >>= next).run s = (.error e, t) := by
  rw [run_bind, h]

/-- Two acts that succeed one after the other, each on its own. -/
theorem ok_of_bind {act : Act σ α} {next : α → Act σ β} {s u : σ} {b : β}
    (h : (act >>= next).run s = (.ok b, u)) :
    ∃ a t, act.run s = (.ok a, t) ∧ (next a).run t = (.ok b, u) := by
  rw [run_bind] at h
  cases ran : act.run s with
  | mk r t =>
    rw [ran] at h
    cases r with
    | ok a => exact ⟨a, t, rfl, h⟩
    | error e => cases h

/-- An act that does the same in related states, and leads to related states. -/
def Lockstep (R : σ → σ → Prop) (act : Act σ α) : Prop :=
  ∀ s t, R s t → (act.run s).1 = (act.run t).1 ∧ R (act.run s).2 (act.run t).2

theorem lockstep_const {R : σ → σ → Prop} {act : Act σ α} (r : Except Failure α)
    (const : ∀ s, act.run s = (r, s)) : Lockstep R act := fun s t related => by
  rw [const, const]
  exact ⟨rfl, related⟩

theorem Lockstep.bind {R : σ → σ → Prop} {act : Act σ α} {next : α → Act σ β}
    (first : Lockstep R act) (then' : ∀ a, Lockstep R (next a)) : Lockstep R (act >>= next) := by
  intro s t related
  obtain ⟨same, related'⟩ := first s t related
  rw [run_bind, run_bind]
  cases ran : act.run s with
  | mk r s' =>
    cases ran' : act.run t with
    | mk r' t' =>
      rw [ran, ran'] at same related'
      obtain rfl : r = r' := same
      cases r with
      | ok a => exact then' a s' t' related'
      | error e => exact ⟨rfl, related'⟩

/-- An act that leaves every state that is `P` in one that is `P`, whether it fails or not. -/
def Keeps (P : σ → Prop) (act : Act σ α) : Prop := ∀ s, P s → P (act.run s).2

namespace Keeps

variable {P : σ → Prop}

theorem pure (a : α) : Keeps P (Pure.pure a : Act σ α) := fun _ h => h

theorem throw (e : Failure) : Keeps P (MonadExcept.throw e : Act σ α) := fun _ h => h

/-- What follows a failure does not matter. -/
theorem throw_bind (e : Failure) (next : α → Act σ β) :
    Keeps P ((MonadExcept.throw e : Act σ α) >>= next) := by
  intro s h
  rw [run_bind_error (run_throw e s)]
  exact h

theorem ofExcept (r : Except Failure α) : Keeps P (Act.ofExcept r) := fun _ h => h

theorem get : Keeps P (MonadState.get : Act σ σ) := fun _ h => h

theorem bind {act : Act σ α} {next : α → Act σ β} (first : Keeps P act)
    (then' : ∀ a, Keeps P (next a)) : Keeps P (act >>= next) := by
  intro s h
  have mid := first s h
  rw [run_bind]
  cases ran : act.run s with
  | mk r t =>
    rw [ran] at mid
    cases r with
    | ok a => exact then' a t mid
    | error e => exact mid

/-- What is read is a state that is `P`. -/
theorem get_bind {next : σ → Act σ β} (then' : ∀ s, P s → Keeps P (next s)) :
    Keeps P (MonadState.get >>= next) := by
  intro s h
  rw [run_bind_ok (run_get s)]
  exact then' s h s h

theorem ofExcept_bind {r : Except Failure α} {next : α → Act σ β}
    (then' : ∀ a, r = .ok a → Keeps P (next a)) : Keeps P (Act.ofExcept r >>= next) := by
  intro s h
  rw [run_bind, run_ofExcept]
  cases r with
  | ok a => exact then' a rfl s h
  | error e => exact h

theorem attempt {act : Act σ α} (h : Keeps P act) : Keeps P (Act.attempt act) := h

end Keeps

/-- The state in which an act is done for the time of a number, counted from zero, if it is done
again and again with a pause after each time. -/
def turn (act : Act σ α) (pause : Nat → Act σ Unit) (s : σ) : Nat → σ
  | 0 => s
  | n + 1 => ((pause n).run (act.run (turn act pause s n)).2).2

/-- What the act comes to at that time. -/
def nth (act : Act σ α) (pause : Nat → Act σ Unit) (s : σ) (n : Nat) : Except Failure α × σ :=
  act.run (turn act pause s n)

/-- After the first time, and the pause after it, an act is done again and again from there. -/
theorem turn_succ (act : Act σ α) (pause : Nat → Act σ Unit) (s : σ) (n : Nat) :
    turn act pause s (n + 1) =
      turn act (fun i => pause (i + 1)) ((pause 0).run (act.run s).2).2 n := by
  induction n with
  | zero => rfl
  | succ n ih =>
    rw [turn, ih]
    rfl

theorem nth_succ (act : Act σ α) (pause : Nat → Act σ Unit) (s : σ) (n : Nat) :
    nth act pause s (n + 1) =
      nth act (fun i => pause (i + 1)) ((pause 0).run (act.run s).2).2 n := by
  rw [nth, turn_succ]
  rfl

end SolidityRepl.Act

namespace SolidityRepl

variable {σ α β : Type} {P : Failure → Prop}

/-- Something is done for the last time. It is done again after every answer that calls for it, but
not more often than `most` times. -/
structure IsLast (again : Except Failure α → Prop) (answer : Nat → Except Failure α)
    (most last : Nat) : Prop where
  lt : last < most
  before : ∀ i < last, again (answer i)
  ends : again (answer last) → last + 1 = most

namespace IsLast

variable {again : Except Failure α → Prop} {answer : Nat → Except Failure α} {most last : Nat}

/-- The last time is also the last one of those after the first. -/
theorem tail (h : IsLast again answer (most + 1) (last + 1)) :
    IsLast again (fun i => answer (i + 1)) most last where
  lt := Nat.lt_of_succ_lt_succ h.lt
  before i early := h.before (i + 1) (Nat.succ_lt_succ early)
  ends more := Nat.succ.inj (h.ends more)

/-- Whatever is done at all is done for a last time. By induction on how often it may be done. -/
theorem exists_of_pos (again : Except Failure α → Prop) (answer : Nat → Except Failure α)
    (pos : most ≠ 0) : ∃ last, IsLast again answer most last := by
  induction most with
  | zero => exact absurd rfl pos
  | succ most ih =>
    by_cases first : most = 0
    · exact ⟨0, by omega, nofun, fun _ => by omega⟩
    · obtain ⟨last, h⟩ := ih first
      by_cases more : again (answer last)
      · -- only the limit has ended it, so there is one time more
        have limit := h.ends more
        refine ⟨last + 1, by omega, fun i early => ?_, fun _ => by omega⟩
        obtain earlier | rfl := Nat.lt_succ_iff_lt_or_eq.mp early
        · exact h.before i earlier
        · exact more
      · exact ⟨last, Nat.lt_succ_of_lt h.lt, h.before, fun more' => absurd more' more⟩

end IsLast

theorem bind_ok {r : Except Failure α} {a : α} (ok : r = .ok a) (next : α → Except Failure β) :
    (r >>= next) = next a := by
  rw [ok]
  rfl

/-- Attempts on all items that succeed. -/
theorem mapM_ok {items : List α} {f : α → Except Failure β} {g : α → β}
    (each : ∀ a ∈ items, f a = .ok (g a)) : items.mapM f = .ok (items.map g) := by
  induction items with
  | nil => rfl
  | cons a rest ih =>
    obtain ⟨first, later⟩ := List.forall_mem_cons.mp each
    rw [List.mapM_cons, bind_ok first, bind_ok (ih later)]
    rfl

/-- An attempt whose cause is `P` if it fails. -/
def FailsBy (P : Failure → Prop) (r : Except Failure α) : Prop := ∀ e, r = .error e → P e

namespace FailsBy

theorem ok (a : α) : FailsBy P (.ok a : Except Failure α) := by
  rintro _ ⟨⟩

theorem error {e : Failure} (h : P e) : FailsBy P (.error e : Except Failure α) := by
  rintro _ ⟨⟩
  exact h

theorem bind {r : Except Failure α} {next : α → Except Failure β} (first : FailsBy P r)
    (second : ∀ a, FailsBy P (next a)) : FailsBy P (r >>= next) := by
  cases r with
  | ok a => exact second a
  | error e => exact .error (first e rfl)

theorem map {r : Except Failure α} (f : α → β) (h : FailsBy P r) : FailsBy P (r.map f) := by
  cases r with
  | ok a => exact .ok (f a)
  | error e => exact .error (h e rfl)

/-- By induction on the items. -/
theorem mapM {f : α → Except Failure β} (each : ∀ a, FailsBy P (f a)) (items : List α) :
    FailsBy P (items.mapM f) := by
  induction items with
  | nil => exact .ok []
  | cons a rest ih =>
    rw [List.mapM_cons]
    exact (each a).bind fun b => ih.bind fun bs => .ok _

/-- What follows an act goes on from the state that the act leads to. -/
theorem bind_run {act : Act σ α} {next : α → Act σ β} {s : σ} (first : FailsBy P (act.run s).1)
    (second : ∀ a, FailsBy P ((next a).run (act.run s).2).1) :
    FailsBy P ((act >>= next).run s).1 := by
  rw [Act.run_bind]
  cases ran : act.run s with
  | mk r t =>
    rw [ran] at first second
    cases r with
    | ok a => exact second a
    | error e => exact .error (first e rfl)

end FailsBy

/-- An act whose cause is `P` whenever it fails. -/
def Act.FailsBy (P : Failure → Prop) (act : Act σ α) : Prop :=
  ∀ s, SolidityRepl.FailsBy P (act.run s).1

namespace Act.FailsBy

theorem pure (a : α) : FailsBy P (Pure.pure a : Act σ α) := fun _ => .ok a

theorem ofExcept {r : Except Failure α} (h : SolidityRepl.FailsBy P r) :
    FailsBy P (Act.ofExcept r : Act σ α) := fun _ => h

theorem bind {act : Act σ α} {next : α → Act σ β} (first : FailsBy P act)
    (second : ∀ a, FailsBy P (next a)) : FailsBy P (act >>= next) :=
  fun s => .bind_run (first s) fun a => second a _

end Act.FailsBy

end SolidityRepl
