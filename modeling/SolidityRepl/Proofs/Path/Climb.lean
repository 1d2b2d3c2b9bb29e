import Mathlib.Data.List.DropRight
import Mathlib.Logic.Function.Iterate
import SolidityRepl.Proofs.Path
import SolidityRepl.Proofs.Text.Split

/-!
# Steps back from a folder

A path is followed step by step, and a step back takes away the last name. The same can be meant in
another way: that the last segment of the folder's text is taken away. Both come to the same as long
as what is taken away is a name each time.

* `trail`: what the steps of a path leave, the last one first;
* `Settled`: some steps back, and names after them, which is all that a trail can be;
* `withoutLast`, `EndsInNames`: a folder without its last segment, and whether its last segments are
  names;
* `height_trail`: each segment makes a trail higher by one at most, and only names do;
* `retreat_trail`: steps back over names;
* `IsShortest`, `written_retreats_iff`: a folder that is written as its trail, and when steps back
  take off its last segments.
-/

namespace SolidityRepl.Path

open Text

def stepsOf (path : List Char) : List (List Char) := (segments path).filter isStep

/-- What the steps of a path leave, the last one first. -/
def trail (rooted : Bool) (path : List Char) : List (List Char) :=
  (stepsOf path).foldl (advance rooted) []

def retreat (rooted : Bool) (taken : List (List Char)) : List (List Char) :=
  advance rooted taken back

/-- A path without its last segment and the slashes before it. -/
def withoutLast (path : List Char) : List Char :=
  match splitAtLast? '/' path with
  | none => []
  | some (front, _) => front.rdropWhile (· == '/')

/-- A name that leads on. -/
structure IsOrdinary (name : List Char) : Prop extends IsName name where
  leads : name ≠ ['.']
  forward : name ≠ back

/-- The last segments of a folder, so many of them, are names. -/
def EndsInNames : Nat → List Char → Prop
  | 0, _ => True
  | n + 1, folder => IsOrdinary (afterLast '/' folder) ∧ EndsInNames n (withoutLast folder)

/-! ## Steps -/

section

variable {path front last name step : List Char} {rooted : Bool} {taken : List (List Char)}

theorem IsOrdinary.isStep (ordinary : IsOrdinary name) : isStep name = true := by
  simp [Path.isStep, ordinary.some, ordinary.leads]

theorem isOrdinary_of_isStep (slashless : '/' ∉ name) (leads : isStep name = true)
    (forward : name ≠ back) : IsOrdinary name := by
  simp only [isStep, Bool.and_eq_true, Bool.not_eq_true', List.isEmpty_eq_false_iff, bne_iff_ne]
    at leads
  exact { some := leads.1, slashless, leads := leads.2, forward }

theorem stepsOf_cut (front last : List Char) :
    stepsOf (front ++ '/' :: last) = stepsOf front ++ stepsOf last := by
  rw [stepsOf, segments, List.splitOn_append_cons_self, List.filter_append]
  rfl

theorem stepsOf_slashless (slashless : '/' ∉ path) : stepsOf path = [path].filter isStep := by
  rw [stepsOf, segments, List.splitOn_eq_singleton slashless]

theorem stepsOf_nil : stepsOf [] = [] := rfl

/-- Slashes at the end lead nowhere. -/
theorem stepsOf_slashes {slashes : List Char} (all : ∀ c ∈ slashes, c = '/') (front : List Char) :
    stepsOf (front ++ slashes) = stepsOf front := by
  induction slashes generalizing front with
  | nil => rw [List.append_nil]
  | cons c slashes ih =>
    obtain rfl := all c List.mem_cons_self
    have rest : ∀ c ∈ slashes, c = '/' := fun c mem => all c (List.mem_cons_of_mem _ mem)
    have none : stepsOf slashes = [] := ih rest []
    rw [stepsOf_cut, none, List.append_nil]

theorem stepsOf_intercalate {parts : List (List Char)} (named : ∀ part ∈ parts, IsName part)
    (lead : ∀ part ∈ parts, isStep part = true) : stepsOf (['/'].intercalate parts) = parts := by
  cases parts with
  | nil => rfl
  | cons part parts =>
    rw [stepsOf, segments, List.splitOn_intercalate '/' (fun p mem => (named p mem).slashless)
      (List.cons_ne_nil _ _), List.filter_eq_self.mpr lead]

theorem takeWhile_slashless (slashless : '/' ∉ path) : path.takeWhile (· == '/') = [] := by
  cases path with
  | nil => rfl
  | cons c path =>
    rw [List.takeWhile_cons_of_neg]
    exact fun slash => slashless (beq_iff_eq.mp slash ▸ List.mem_cons_self)

theorem root_slashless (slashless : '/' ∉ path) : root path = [] := by
  rw [root, takeWhile_slashless slashless]
  rfl

/-! ## The last segment -/

theorem withoutLast_slashless (slashless : '/' ∉ path) : withoutLast path = [] := by
  rw [withoutLast, splitAtLast?_absent (List.forall_mem_ne'.mpr slashless)]

theorem withoutLast_cut (front : List Char) (slashless : '/' ∉ last) :
    withoutLast (front ++ '/' :: last) = front.rdropWhile (· == '/') := by
  rw [withoutLast, splitAtLast?_append (List.forall_mem_ne'.mpr slashless)]

/-- The slashes at the end of a text, and what stands before them. -/
theorem exists_slashes (front : List Char) :
    ∃ slashes, (∀ c ∈ slashes, c = '/') ∧ front = front.rdropWhile (· == '/') ++ slashes := by
  refine ⟨front.rtakeWhile (· == '/'), fun c mem => ?_, List.rdropWhile_append_rtakeWhile.symm⟩
  have slash := List.mem_rtakeWhile_imp mem
  simpa using slash

/-- No slash is left at the end. -/
theorem getLast?_withoutLast (path : List Char) : (withoutLast path).getLast? ≠ some '/' := by
  unfold withoutLast
  split
  · simp
  · rename_i front _ _
    intro slash
    have some : front.rdropWhile (· == '/') ≠ [] := by
      intro none
      rw [none] at slash
      cases slash
    have ends := List.rdropWhile_last_not (· == '/') front some
    rw [List.getLast?_eq_some_getLast some] at slash
    exact ends (beq_iff_eq.mpr (Option.some.inj slash))

/-- The steps of a path are those before its last segment, and that one. -/
theorem stepsOf_withoutLast (path : List Char) :
    stepsOf path = stepsOf (withoutLast path) ++ [afterLast '/' path].filter isStep := by
  obtain absent | ⟨front, last, rfl, absent⟩ := absent_or_exists_cut '/' path
  · have slashless : '/' ∉ path := fun mem => absent _ mem rfl
    rw [withoutLast_slashless slashless, afterLast_absent absent, stepsOf_slashless slashless,
      stepsOf_nil, List.nil_append]
  · have slashless : '/' ∉ last := fun mem => absent _ mem rfl
    obtain ⟨slashes, all, cut⟩ := exists_slashes front
    rw [withoutLast_cut front slashless, afterLast_append front absent, stepsOf_cut,
      stepsOf_slashless slashless]
    conv_lhs => rw [cut, stepsOf_slashes all]

theorem slashless_afterLast (path : List Char) : '/' ∉ afterLast '/' path := by
  obtain absent | ⟨front, last, rfl, absent⟩ := absent_or_exists_cut '/' path
  · rw [afterLast_absent absent]
    exact fun mem => absent _ mem rfl
  · rw [afterLast_append front absent]
    exact fun mem => absent _ mem rfl

/-! ## Trails -/

theorem advance_forward (forward : name ≠ back) : advance rooted taken name = name :: taken := by
  unfold advance
  rw [if_pos (bne_iff_ne.mpr forward)]

theorem retreat_forward (forward : name ≠ back) : retreat rooted (name :: taken) = taken := by
  simp [retreat, advance, forward]

theorem retreat_back : retreat rooted (back :: taken) = back :: back :: taken := by
  simp [retreat, advance]

/-- How far a trail leads forward, steps back taken off. -/
def height : List (List Char) → Int
  | [] => 0
  | step :: taken => (if step = back then -1 else 1) + height taken

theorem height_cons : height (step :: taken) = (if step = back then -1 else 1) + height taken := rfl

/-- A step back leads back by one, but from the root nowhere. -/
theorem height_retreat (rooted : Bool) (taken : List (List Char)) :
    (rooted = true ∧ taken = [] ∧ retreat rooted taken = []) ∨
      height (retreat rooted taken) = height taken - 1 := by
  cases taken with
  | nil =>
    cases rooted with
    | true => exact .inl ⟨rfl, rfl, rfl⟩
    | false => exact .inr rfl
  | cons step taken =>
    refine .inr ?_
    by_cases forward : step = back
    · rw [forward, retreat_back, height_cons, if_pos rfl]
      omega
    · rw [retreat_forward forward, height_cons, if_neg forward]
      omega

theorem height_retreats (rooted : Bool) (n : Nat) (taken : List (List Char)) :
    (rooted = true ∧ (retreat rooted)^[n] taken = []) ∨
      height ((retreat rooted)^[n] taken) = height taken - n := by
  induction n with
  | zero => exact .inr (by simp)
  | succ n ih =>
    rw [Function.iterate_succ_apply']
    obtain ⟨rfl, none⟩ | before := ih
    · rw [none]
      exact .inl ⟨rfl, rfl⟩
    · obtain ⟨rfl, -, none⟩ | after := height_retreat rooted ((retreat rooted)^[n] taken)
      · exact .inl ⟨rfl, none⟩
      · refine .inr ?_
        rw [after, before]
        push_cast
        omega

theorem trail_withoutLast (rooted : Bool) (path : List Char) :
    trail rooted path =
      ([afterLast '/' path].filter isStep).foldl (advance rooted) (trail rooted (withoutLast path)) := by
  rw [trail, stepsOf_withoutLast, List.foldl_append]
  rfl

/-- A segment that is a name makes a trail higher by one, and no other segment does. -/
theorem height_trail_step (rooted : Bool) (path : List Char) :
    height (trail rooted path) ≤ height (trail rooted (withoutLast path)) + 1 ∧
      (height (trail rooted path) = height (trail rooted (withoutLast path)) + 1 →
        IsOrdinary (afterLast '/' path)) := by
  rw [trail_withoutLast]
  cases leads : isStep (afterLast '/' path) with
  | false =>
    have none : [afterLast '/' path].filter isStep = [] := by simp [leads]
    rw [none, List.foldl_nil]
    omega
  | true =>
    have one : [afterLast '/' path].filter isStep = [afterLast '/' path] := by simp [leads]
    rw [one, List.foldl_cons, List.foldl_nil]
    by_cases forward : afterLast '/' path = back
    · have turn := height_retreat rooted (trail rooted (withoutLast path))
      rw [retreat, ← forward] at turn
      obtain ⟨-, none, none'⟩ | lower := turn
      · rw [none', none]
        simp [height]
      · omega
    · rw [advance_forward forward, height_cons, if_neg forward]
      exact ⟨by omega, fun _ => isOrdinary_of_isStep (slashless_afterLast path) leads forward⟩

/-- **Some segments make a trail higher by their number at most**, and only if all are names. -/
theorem height_trail (rooted : Bool) (n : Nat) (path : List Char) :
    height (trail rooted path) ≤ height (trail rooted (withoutLast^[n] path)) + n ∧
      (height (trail rooted path) = height (trail rooted (withoutLast^[n] path)) + n →
        EndsInNames n path) := by
  induction n generalizing path with
  | zero => exact ⟨by simp, fun _ => trivial⟩
  | succ n ih =>
    obtain ⟨above, names⟩ := ih (withoutLast path)
    obtain ⟨step, name⟩ := height_trail_step rooted path
    rw [Function.iterate_succ_apply]
    push_cast
    exact ⟨by omega, fun same => ⟨name (by omega), names (by omega)⟩⟩

/-- **Steps back over names** lead to the folder without its last segments. -/
theorem retreat_trail (rooted : Bool) {n : Nat} {path : List Char} (named : EndsInNames n path) :
    (retreat rooted)^[n] (trail rooted path) = trail rooted (withoutLast^[n] path) := by
  induction n generalizing path with
  | zero => rfl
  | succ n ih =>
    obtain ⟨ordinary, more⟩ := named
    have one : [afterLast '/' path].filter isStep = [afterLast '/' path] := by
      simp [ordinary.isStep]
    rw [Function.iterate_succ_apply, Function.iterate_succ_apply, trail_withoutLast, one,
      List.foldl_cons, List.foldl_nil, advance_forward ordinary.forward,
      retreat_forward ordinary.forward, ih more]

/-! ## Folders written as their trails -/

/-- What a trail can be: steps back, which there are none of from the root, and names after them. -/
def Settled (rooted : Bool) (taken : List (List Char)) : Prop :=
  ∃ (names : List (List Char)) (backs : Nat), taken = names ++ List.replicate backs back ∧
    (∀ name ∈ names, IsOrdinary name) ∧ (rooted = true → backs = 0)

theorem settled_nil (rooted : Bool) : Settled rooted [] :=
  ⟨[], 0, rfl, fun _ mem => absurd mem List.not_mem_nil, fun _ => rfl⟩

theorem Settled.retreat (settled : Settled rooted taken) : Settled rooted (retreat rooted taken) := by
  obtain ⟨names, backs, rfl, ordinary, root⟩ := settled
  cases names with
  | cons name names =>
    have forward := (ordinary name List.mem_cons_self).forward
    exact ⟨names, backs, retreat_forward forward,
      fun n mem => ordinary n (List.mem_cons_of_mem _ mem), root⟩
  | nil =>
    cases backs with
    | succ backs =>
      have free : rooted ≠ true := fun rooted => absurd (root rooted) (by omega)
      exact ⟨[], backs + 2, retreat_back, ordinary, fun rooted => absurd rooted free⟩
    | zero =>
      cases rooted with
      | true => exact settled_nil true
      | false => exact ⟨[], 1, rfl, ordinary, fun rooted => by cases rooted⟩

theorem Settled.advance (settled : Settled rooted taken) (slashless : '/' ∉ step)
    (leads : isStep step = true) : Settled rooted (advance rooted taken step) := by
  by_cases forward : step = back
  · exact forward ▸ settled.retreat
  · obtain ⟨names, backs, rfl, ordinary, root⟩ := settled
    refine ⟨step :: names, backs, advance_forward forward, fun name mem => ?_, root⟩
    obtain rfl | mem := List.mem_cons.mp mem
    · exact isOrdinary_of_isStep slashless leads forward
    · exact ordinary name mem

theorem Settled.advances (settled : Settled rooted taken) {steps : List (List Char)}
    (all : ∀ step ∈ steps, '/' ∉ step ∧ isStep step = true) :
    Settled rooted (steps.foldl (Path.advance rooted) taken) := by
  induction steps generalizing taken with
  | nil => exact settled
  | cons step steps ih =>
    obtain ⟨slashless, leads⟩ := all step List.mem_cons_self
    exact ih (settled.advance slashless leads) fun s mem => all s (List.mem_cons_of_mem _ mem)

theorem settled_trail (rooted : Bool) (path : List Char) : Settled rooted (trail rooted path) :=
  (settled_nil rooted).advances fun _ mem =>
    ⟨(isName_of_isStep mem).slashless, (List.mem_filter.mp mem).2⟩

theorem Settled.retreats (settled : Settled rooted taken) (n : Nat) :
    Settled rooted ((Path.retreat rooted)^[n] taken) := by
  induction n with
  | zero => exact settled
  | succ n ih =>
    rw [Function.iterate_succ_apply']
    exact ih.retreat

/-- Names are taken one after the other. -/
theorem foldl_advance_names {names : List (List Char)} (ordinary : ∀ name ∈ names, IsOrdinary name)
    (taken : List (List Char)) : names.foldl (advance rooted) taken = names.reverse ++ taken := by
  induction names generalizing taken with
  | nil => rfl
  | cons name names ih =>
    rw [List.foldl_cons, advance_forward (ordinary name List.mem_cons_self).forward,
      ih fun n mem => ordinary n (List.mem_cons_of_mem _ mem)]
    simp

/-- Steps back from a working folder are kept. -/
theorem foldl_advance_back (n : Nat) :
    (List.replicate n back).foldl (advance false) [] = List.replicate n back := by
  induction n with
  | zero => rfl
  | succ n ih =>
    rw [List.replicate_succ', List.foldl_append, ih, ← List.replicate_succ']
    cases n <;> rfl

/-- The steps of a trail leave the trail. -/
theorem Settled.foldl (settled : Settled rooted taken) :
    taken.reverse.foldl (Path.advance rooted) [] = taken := by
  obtain ⟨names, backs, rfl, ordinary, root⟩ := settled
  have backwards : (List.replicate backs back).foldl (Path.advance rooted) [] =
      List.replicate backs back := by
    cases rooted with
    | false => exact foldl_advance_back backs
    | true =>
      rw [root rfl]
      rfl
  rw [List.reverse_append, List.reverse_replicate, List.foldl_append, backwards,
    foldl_advance_names fun name mem => ordinary name (List.mem_reverse.mp mem), List.reverse_reverse]

/-- A folder below some slashes, or below none, that is written without detours: as steps back, which
there are none of behind slashes, and names. It is more than the slashes. -/
def IsShortest (root folder : List Char) : Prop :=
  ∃ (backs : Nat) (names : List (List Char)), (∀ name ∈ names, IsOrdinary name) ∧
    (root ≠ [] → backs = 0 ∧ names ≠ []) ∧
    folder = root ++ ['/'].intercalate (List.replicate backs back ++ names)

/-- The slashes of a root lead nowhere. -/
theorem stepsOf_root {root : List Char} (slashes : root = [] ∨ root = ['/'] ∨ root = ['/', '/'])
    (path : List Char) : stepsOf (root ++ path) = stepsOf path := by
  obtain rfl | rfl | rfl := slashes
  · rfl
  · exact stepsOf_cut [] path
  · exact (stepsOf_cut ['/'] path).trans rfl

/-- A trail that is written as a path is the trail of that path. -/
theorem Settled.trail_written {root : List Char}
    (slashes : root = [] ∨ root = ['/'] ∨ root = ['/', '/']) (settled : Settled rooted taken) :
    trail rooted (root ++ ['/'].intercalate taken.reverse) = taken := by
  have steps : ∀ step ∈ taken.reverse, IsName step ∧ isStep step = true := by
    obtain ⟨names, backs, rfl, ordinary, -⟩ := settled
    intro step mem
    obtain mem | mem := List.mem_append.mp (List.mem_reverse.mp mem)
    · exact ⟨(ordinary step mem).toIsName, (ordinary step mem).isStep⟩
    · rw [List.eq_of_mem_replicate mem]
      exact ⟨isName_back, rfl⟩
  rw [trail, stepsOf_root slashes, stepsOf_intercalate (fun s mem => (steps s mem).1)
    (fun s mem => (steps s mem).2), settled.foldl]

/-- A folder is written without detours if it is written as its trail. -/
theorem isShortest_iff {root folder : List Char} :
    IsShortest root folder ↔ ∃ taken, Settled (!root.isEmpty) taken ∧ (root ≠ [] → taken ≠ []) ∧
      folder = root ++ ['/'].intercalate taken.reverse := by
  constructor
  · rintro ⟨backs, names, ordinary, below, rfl⟩
    refine ⟨names.reverse ++ List.replicate backs back, ⟨names.reverse, backs, rfl,
      fun name mem => ordinary name (List.mem_reverse.mp mem), fun rooted => ?_⟩, fun some => ?_, ?_⟩
    · exact (below (by simpa using rooted)).1
    · simp [(below some).2]
    · simp
  · rintro ⟨taken, ⟨names, backs, rfl, ordinary, root'⟩, below, rfl⟩
    refine ⟨backs, names.reverse, fun name mem => ordinary name (List.mem_reverse.mp mem),
      fun some => ?_, by simp⟩
    have none : backs = 0 := root' (by simpa using some)
    have more := below some
    rw [none] at more
    exact ⟨none, by simpa using more⟩

/-- Names between slashes, and more of them. -/
theorem intercalate_append {front more : List (List Char)} (full : front ≠ []) (full' : more ≠ []) :
    ['/'].intercalate (front ++ more) =
      ['/'].intercalate front ++ '/' :: ['/'].intercalate more := by
  induction front with
  | nil => exact absurd rfl full
  | cons part front ih =>
    cases front with
    | nil =>
      rw [List.singleton_append, List.intercalate_cons_of_ne_nil full', List.intercalate_singleton]
      simp
    | cons next front =>
      rw [List.cons_append, List.intercalate_cons_of_ne_nil (by simp), ih (List.cons_ne_nil _ _),
        List.intercalate_cons_cons]
      simp

/-- Names between slashes end in a character of the last one. -/
theorem getLast?_intercalate {parts : List (List Char)} (full : parts ≠ [])
    (named : ∀ part ∈ parts, IsName part) :
    ∃ c, (['/'].intercalate parts).getLast? = some c ∧ c ≠ '/' := by
  induction parts with
  | nil => exact absurd rfl full
  | cons part parts ih =>
    obtain rfl | full := eq_or_ne parts []
    · have name := named part List.mem_cons_self
      rw [List.intercalate_singleton, List.getLast?_eq_some_getLast name.some]
      exact ⟨_, rfl, fun slash => name.slashless (slash ▸ List.getLast_mem name.some)⟩
    · obtain ⟨c, last, other⟩ := ih full fun p mem => named p (List.mem_cons_of_mem _ mem)
      rw [List.intercalate_cons_of_ne_nil full, List.getLast?_append, last]
      exact ⟨c, rfl, other⟩

/-- **Steps back from a folder take off its last segments** exactly if these are names and what is
left of the folder is written without detours. -/
theorem written_retreats_iff {root : List Char}
    (slashes : root = [] ∨ root = ['/'] ∨ root = ['/', '/']) (n : Nat) (folder : List Char) :
    let left := (retreat !root.isEmpty)^[n] (trail (!root.isEmpty) folder)
    ((root ≠ [] → left ≠ []) ∧ withoutLast^[n] folder = root ++ ['/'].intercalate left.reverse) ↔
      EndsInNames n folder ∧ IsShortest root (withoutLast^[n] folder) := by
  intro left
  constructor
  · rintro ⟨below, written⟩
    have settled : Settled (!root.isEmpty) left := (settled_trail _ folder).retreats n
    refine ⟨?_, isShortest_iff.mpr ⟨left, settled, below, written⟩⟩
    have same : trail (!root.isEmpty) (withoutLast^[n] folder) = left :=
      written ▸ settled.trail_written slashes
    refine (height_trail (!root.isEmpty) n folder).2 ?_
    obtain ⟨rooted, none⟩ | lower := height_retreats (!root.isEmpty) n (trail (!root.isEmpty) folder)
    · exact absurd none (below (by simpa using rooted))
    · rw [same, lower]
      omega
  · rintro ⟨named, shortest⟩
    obtain ⟨taken, settled, below, written⟩ := isShortest_iff.mp shortest
    have same : left = taken := by
      rw [← settled.trail_written slashes, ← written]
      exact retreat_trail _ named
    exact same ▸ ⟨below, written⟩

end

end SolidityRepl.Path
