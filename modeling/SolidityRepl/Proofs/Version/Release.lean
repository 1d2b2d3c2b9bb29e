import SolidityRepl.Version.Clause

/-!
# Releases

A release is known by its first three numbers if it has no more of them and no marks. Releases are
in the order of these numbers, and so are the versions that they are.
-/

namespace SolidityRepl.Version

/-! ## Three numbers -/

structure Triple where
  major : Nat
  minor : Nat
  patch : Nat
  deriving DecidableEq, Repr

/-- Three numbers are less if the first that differs is. -/
def Triple.Below (a b : Triple) : Prop :=
  a.major < b.major ∨ a.major = b.major ∧
    (a.minor < b.minor ∨ a.minor = b.minor ∧ a.patch < b.patch)

instance (a b : Triple) : Decidable (a.Below b) := by
  unfold Triple.Below
  infer_instance

def triple (v : Version) : Triple :=
  ⟨v.release.getD 0 0, v.release.getD 1 0, v.release.getD 2 0⟩

/-- A version of three numbers at most, and of nothing else. -/
structure IsRelease (v : Version) : Prop where
  bare : v = { release := v.release }
  short : v.release.length ≤ 3

/-- A final release: three numbers. -/
def IsFinal (v : Version) : Prop := ∃ x y z, v = { release := [x, y, z] }

theorem IsFinal.isRelease {v : Version} (final : v.IsFinal) : v.IsRelease := by
  obtain ⟨x, y, z, rfl⟩ := final
  exact ⟨rfl, Nat.le_refl 3⟩

/-! ## Zeros at the end -/

theorem trimmed_cons (n : Nat) (rest : List Nat) :
    trimmed (n :: rest) = if trimmed rest = [] ∧ n = 0 then [] else n :: trimmed rest := by
  rw [trimmed, trimmed, List.reverse_cons, List.dropWhile_append]
  cases kept : rest.reverse.dropWhile (· == 0) with
  | nil => by_cases zero : n = 0 <;> simp [zero]
  | cons m more => simp

theorem leading_cons (n k : Nat) (rest : List Nat) :
    leading (n + 1) (k :: rest) = k :: leading n rest := by
  rw [leading, leading, List.cons_append, List.take_succ_cons, List.replicate_succ']
  rw [← List.append_assoc, List.take_append_of_le_length]
  simp

theorem leading_nil (n : Nat) : leading (n + 1) [] = 0 :: leading n [] := by
  simp [leading, List.replicate_succ]

theorem compareNumbers_self (n : Nat) : compareNumbers n n = .eq := by
  simp [compareNumbers, compareOfLessAndEq]

theorem compareNumbers_lt {m n : Nat} (less : m < n) : compareNumbers m n = .lt := by
  simp [compareNumbers, compareOfLessAndEq, less]

theorem compareNumbers_gt {m n : Nat} (more : n < m) : compareNumbers m n = .gt := by
  simp [compareNumbers, compareOfLessAndEq, Nat.lt_asymm more, Nat.ne_of_gt more]

theorem compareNumbers_eq_lt {m n : Nat} : compareNumbers m n = .lt ↔ m < n := by
  rcases Nat.lt_trichotomy m n with less | rfl | more
  · simp [compareNumbers_lt less, less]
  · simp [compareNumbers_self]
  · simp [compareNumbers_gt more, Nat.le_of_lt more]

theorem compareNumbers_eq_eq {m n : Nat} : compareNumbers m n = .eq ↔ m = n := by
  rcases Nat.lt_trichotomy m n with less | rfl | more
  · simp [compareNumbers_lt less, Nat.ne_of_lt less]
  · simp [compareNumbers_self]
  · simp [compareNumbers_gt more, Nat.ne_of_gt more]

/-- Zeros at the end make no difference, nor does a zero more. -/
theorem compareLists_cons {m n : Nat} {as bs as' bs' : List Nat}
    (rest : compareLists compareNumbers (trimmed as) (trimmed bs) =
      compareLists compareNumbers as' bs') :
    compareLists compareNumbers (trimmed (m :: as)) (trimmed (n :: bs)) =
      compareLists compareNumbers (m :: as') (n :: bs') := by
  rw [trimmed_cons, trimmed_cons]
  rcases Nat.lt_trichotomy m n with less | rfl | more
  · have some : ¬ (trimmed bs = [] ∧ n = 0) := by omega
    rw [if_neg some]
    by_cases none : trimmed as = [] ∧ m = 0
    · simp [none, compareLists, compareNumbers_lt (Nat.pos_of_ne_zero (by omega : n ≠ 0))]
    · simp [none, compareLists, compareNumbers_lt less]
  · rw [compareLists, compareNumbers_self, ← rest]
    by_cases first : trimmed as = [] ∧ m = 0 <;> by_cases second : trimmed bs = [] ∧ m = 0
    · simp [first, second, compareLists]
    · obtain ⟨none, rfl⟩ := first
      have some : trimmed bs ≠ [] := by simpa using second
      obtain ⟨b, more, shape⟩ := List.exists_cons_of_ne_nil some
      simp [none, shape, compareLists]
    · obtain ⟨none, rfl⟩ := second
      have some : trimmed as ≠ [] := by simpa using first
      obtain ⟨a, more, shape⟩ := List.exists_cons_of_ne_nil some
      simp [none, shape, compareLists]
    · simp [first, second, compareLists, compareNumbers_self]
  · have some : ¬ (trimmed as = [] ∧ m = 0) := by omega
    rw [if_neg some]
    by_cases none : trimmed bs = [] ∧ n = 0
    · simp [none, compareLists, compareNumbers_gt (Nat.pos_of_ne_zero (by omega : m ≠ 0))]
    · simp [none, compareLists, compareNumbers_gt more]

theorem trimmed_nil : trimmed [] = trimmed [0] := rfl

/-- **Releases are in the order of as many numbers as they have at most.** -/
theorem compareLists_trimmed (n : Nat) {as bs : List Nat} (short : as.length ≤ n)
    (short' : bs.length ≤ n) :
    compareLists compareNumbers (trimmed as) (trimmed bs) =
      compareLists compareNumbers (leading n as) (leading n bs) := by
  induction n generalizing as bs with
  | zero =>
    rw [List.length_eq_zero_iff.mp (Nat.le_zero.mp short),
      List.length_eq_zero_iff.mp (Nat.le_zero.mp short')]
    rfl
  | succ n ih =>
    -- a release that has no number left goes on with a zero
    have goesOn : ∀ cs : List Nat, cs.length ≤ n + 1 → ∃ m rest, rest.length ≤ n ∧
        trimmed cs = trimmed (m :: rest) ∧ leading (n + 1) cs = m :: leading n rest := by
      intro cs short
      cases cs with
      | nil => exact ⟨0, [], Nat.zero_le n, trimmed_nil, leading_nil n⟩
      | cons m rest => exact ⟨m, rest, Nat.le_of_succ_le_succ short, rfl, leading_cons n m rest⟩
    obtain ⟨m, as', less, same, leads⟩ := goesOn as short
    obtain ⟨k, bs', less', same', leads'⟩ := goesOn bs short'
    rw [same, same', leads, leads']
    exact compareLists_cons (ih less less')

theorem leading_three (ns : List Nat) :
    leading 3 ns = [ns.getD 0 0, ns.getD 1 0, ns.getD 2 0] := by
  match ns with
  | [] | [_] | [_, _] | _ :: _ :: _ :: _ => simp [leading, List.replicate]

/-! ## The order of releases -/

def Triple.order (a b : Triple) : Ordering :=
  compareLists compareNumbers [a.major, a.minor, a.patch] [b.major, b.minor, b.patch]

theorem Triple.order_eq_lt {a b : Triple} : a.order b = .lt ↔ a.Below b := by
  simp only [order, compareLists, Ordering.then_eq_lt, compareNumbers_eq_lt, compareNumbers_eq_eq,
    reduceCtorEq, and_false, or_false, Below]

theorem Triple.order_eq_eq {a b : Triple} : a.order b = .eq ↔ a = b := by
  obtain ⟨x, y, z⟩ := a
  obtain ⟨x', y', z'⟩ := b
  simp only [order, compareLists, Ordering.then_eq_eq, compareNumbers_eq_eq, and_true,
    Triple.mk.injEq]

namespace IsRelease

variable {v w : Version}

theorem unmarked (release : v.IsRelease) : v.epoch = 0 ∧ v.stage = none ∧ v.post = none ∧
    v.dev = none ∧ v.vendor = [] := by
  rw [release.bare]
  exact ⟨rfl, rfl, rfl, rfl, rfl⟩

theorem withoutVendor (release : v.IsRelease) : v.withoutVendor = v := by
  rw [release.bare]
  rfl

/-- **Releases are in the order of their numbers.** -/
theorem compare (release : v.IsRelease) (release' : w.IsRelease) :
    v.compare w = v.triple.order w.triple := by
  rw [release.bare, release'.bare]
  show ((compareNumbers 0 0).then <| (compareLists compareNumbers (trimmed v.release)
    (trimmed w.release)).then .eq) = _
  rw [compareLists_trimmed 3 release.short release'.short, leading_three, leading_three]
  show (compareLists compareNumbers _ _).then .eq = compareLists compareNumbers _ _
  exact Ordering.then_eq

theorem before_iff (release : v.IsRelease) (release' : w.IsRelease) :
    v.before w = true ↔ v.triple.Below w.triple := by
  rw [before, beq_iff_eq, release.compare release', Triple.order_eq_lt]

theorem same_iff (release : v.IsRelease) (release' : w.IsRelease) :
    v.same w = true ↔ v.triple = w.triple := by
  rw [same, beq_iff_eq, release.compare release', Triple.order_eq_eq]

end IsRelease

end SolidityRepl.Version

namespace SolidityRepl.Clause

open Version

/-! ## What clauses ask of releases -/

variable {v w : Version}

theorem equalTo_iff (release : v.IsRelease) (release' : w.IsRelease) :
    equalTo v w = true ↔ v.triple = w.triple := by
  have alone : w.vendor.isEmpty = true := by rw [release'.unmarked.2.2.2.2]; rfl
  rw [equalTo, if_pos alone, release.withoutVendor, release.same_iff release']

theorem olderThan_iff (release : v.IsRelease) (release' : w.IsRelease) :
    olderThan v w = true ↔ v.triple.Below w.triple := by
  have out : v.isPrerelease = false := by
    rw [isPrerelease, release.unmarked.2.1, release.unmarked.2.2.2.1]
    rfl
  simp [olderThan, out, release.before_iff release']

theorem newerThan_iff (release : v.IsRelease) (release' : w.IsRelease) :
    newerThan v w = true ↔ w.triple.Below v.triple := by
  have mends : v.isPostrelease = false := by
    rw [isPostrelease, release.unmarked.2.2.1]
    rfl
  have alone : v.vendor.isEmpty = true := by rw [release.unmarked.2.2.2.2]; rfl
  simp [newerThan, mends, alone, release'.before_iff release]

/-- A series is told by all numbers but the last. -/
theorem isOfSeries_iff {x y : Nat} {z? : Option Nat} (release : v.IsRelease) :
    v.isOfSeries (compatibleSeries { release := x :: y :: z?.toList }) = true ↔
      v.triple.major = x ∧ (z?.isSome = true → v.triple.minor = y) := by
  have same : v.epoch = 0 := release.unmarked.1
  cases z? with
  | none =>
    have one : leading 1 v.release = [v.release.getD 0 0] := by
      match v.release with
      | [] | _ :: _ => rfl
    simp [isOfSeries, compatibleSeries, same, one, triple]
  | some z =>
    have two : leading 2 v.release = [v.release.getD 0 0, v.release.getD 1 0] := by
      match v.release with
      | [] | [_] | _ :: _ :: _ => simp [leading, List.replicate]
    simp [isOfSeries, compatibleSeries, same, two, triple]

end SolidityRepl.Clause
