import SolidityRepl.Import.Closure
import SolidityRepl.Proofs.Path.Climb

/-!
# Names of units by the compiler's rule

The compiler names an imported unit by a rule on texts: the path is made shortest by itself, and for
each step back that it begins with a segment is taken off the name of the importing unit, whatever
that segment is. The units of a session are named by paths instead, of which every segment counts as
what it means. The two agree if and only if only names are taken off and what is left is written
without detours.
-/

namespace SolidityRepl.Import

open Text SolidityRepl.Path

/-! ## The compiler's rule -/

/-- A path by itself: how many steps it leads back, and the names after them. -/
structure Lead where
  backs : Nat
  names : List (List Char)

/-- One more step. A step back takes away the last name, and leads back if there is none. -/
def Lead.next (lead : Lead) (step : List Char) : Lead :=
  if step = back then
    if lead.names = [] then ⟨lead.backs + 1, []⟩ else ⟨lead.backs, lead.names.dropLast⟩
  else ⟨lead.backs, lead.names ++ [step]⟩

def leadOf (path : List Char) : Lead := (stepsOf path).foldl Lead.next ⟨0, []⟩

/-- The folder of a unit, or one that some steps lead back to from there: for each of them the last
segment goes. -/
def folderOf (importer : List Char) (backs : Nat) : List Char :=
  withoutLast^[backs] (withoutLast importer)

/-- Where some steps back from the folder of a unit lead to. -/
def leftOf (importer : List Char) (backs : Nat) : List (List Char) :=
  (retreat !(root importer).isEmpty)^[backs] (trail (!(root importer).isEmpty) (withoutLast importer))

/-- The name that the compiler gives to a unit that is imported by a path from another one. -/
def compilerName (importer path : List Char) : List Char :=
  let lead := leadOf path
  let folder := folderOf importer lead.backs
  let rest := ['/'].intercalate lead.names
  if folder = [] then rest else folder ++ '/' :: rest

/-! ## Where a path from a folder leads -/

section

variable {importer path front more : List Char}

/-- One more step leads from wherever it starts as it leads by itself. -/
theorem Lead.advance_next (rooted : Bool) (taken : List (List Char)) {lead : Lead}
    (forward : ∀ name ∈ lead.names, name ≠ back) (step : List Char) :
    (∀ name ∈ (lead.next step).names, name ≠ back) ∧
      advance rooted (lead.names.reverse ++ (retreat rooted)^[lead.backs] taken) step =
        (lead.next step).names.reverse ++ (retreat rooted)^[(lead.next step).backs] taken := by
  unfold Lead.next
  split
  · rename_i same
    subst same
    obtain none | ⟨names, name, some⟩ := List.eq_nil_or_concat' lead.names
    · rw [if_pos none, none, Function.iterate_succ_apply']
      exact ⟨fun _ mem => absurd mem List.not_mem_nil, rfl⟩
    · have last : name ≠ back := forward name (some ▸ by simp)
      rw [if_neg (by simp [some]), some, List.dropLast_concat, List.reverse_append]
      exact ⟨fun n mem => forward n (some ▸ List.mem_append_left _ mem), retreat_forward last⟩
  · rename_i other
    refine ⟨fun name mem => ?_, ?_⟩
    · obtain mem | mem := List.mem_append.mp mem
      · exact forward name mem
      · exact List.mem_singleton.mp mem ▸ other
    · rw [advance_forward other, List.reverse_append]
      rfl

/-- A path leads from wherever it starts as it leads by itself. -/
theorem foldl_advance_next (rooted : Bool) (taken : List (List Char)) {lead : Lead}
    (forward : ∀ name ∈ lead.names, name ≠ back) (steps : List (List Char)) :
    steps.foldl (advance rooted) (lead.names.reverse ++ (retreat rooted)^[lead.backs] taken) =
      (steps.foldl Lead.next lead).names.reverse ++
        (retreat rooted)^[(steps.foldl Lead.next lead).backs] taken := by
  induction steps generalizing lead with
  | nil => rfl
  | cons step steps ih =>
    obtain ⟨forward', next⟩ := Lead.advance_next rooted taken forward step
    rw [List.foldl_cons, List.foldl_cons, next, ih forward']

theorem foldl_stepsOf (rooted : Bool) (taken : List (List Char)) (path : List Char) :
    (stepsOf path).foldl (advance rooted) taken =
      (leadOf path).names.reverse ++ (retreat rooted)^[(leadOf path).backs] taken :=
  @foldl_advance_next rooted taken ⟨0, []⟩ (fun _ mem => absurd mem List.not_mem_nil) (stepsOf path)

theorem isName_of_mem_leadOf {name : List Char} (mem : name ∈ (leadOf path).names) : IsName name := by
  have named : ∀ name ∈ (stepsOf path).foldl (advance false) [], IsName name :=
    isName_of_mem_foldl (fun _ mem => absurd mem List.not_mem_nil) fun _ => isName_of_isStep
  rw [foldl_stepsOf] at named
  exact named name (List.mem_append_left _ (List.mem_reverse.mpr mem))

/-- The folder of a unit: none, or nothing but slashes, or what is left without the last segment. -/
theorem directory_cases (importer : List Char) :
    ('/' ∉ importer ∧ directory importer = [] ∧ withoutLast importer = []) ∨
    ∃ front last, importer = front ++ '/' :: last ∧ '/' ∉ last ∧
      ((∀ c ∈ front, c = '/') ∧ directory importer = front ++ ['/'] ∧ withoutLast importer = [] ∨
        withoutLast importer ≠ [] ∧ directory importer = withoutLast importer) := by
  obtain absent | ⟨front, last, rfl, absent⟩ := absent_or_exists_cut '/' importer
  · have slashless : '/' ∉ importer := fun mem => absent _ mem rfl
    refine .inl ⟨slashless, ?_, withoutLast_slashless slashless⟩
    rw [directory, splitAtLast?_absent absent]
  · have slashless : '/' ∉ last := fun mem => absent _ mem rfl
    refine .inr ⟨front, last, rfl, slashless, ?_⟩
    rw [withoutLast_cut front slashless, directory, splitAtLast?_append absent, List.rdropWhile]
    dsimp only
    split
    · rename_i none
      refine .inl ⟨fun c mem => ?_, rfl, by rw [none]; rfl⟩
      have slash := List.dropWhile_eq_nil_iff.mp none c (List.mem_reverse.mpr mem)
      exact beq_iff_eq.mp slash
    · rename_i rest some
      exact .inr ⟨by simpa using some, rfl⟩

/-- A path from the folder of a unit, as it is written. -/
theorem under_directory (importer path : List Char) :
    ('/' ∉ importer ∧ withoutLast importer = [] ∧ under (directory importer) path = path) ∨
    ∃ front last, importer = front ++ '/' :: last ∧ '/' ∉ last ∧
      ((∀ c ∈ front, c = '/') ∧ withoutLast importer = [] ∧
          under (directory importer) path = front ++ '/' :: path ∨
        withoutLast importer ≠ [] ∧
          under (directory importer) path = withoutLast importer ++ '/' :: path) := by
  obtain ⟨slashless, bare, none⟩ | ⟨front, last, cut, slashless, first⟩ := directory_cases importer
  · refine .inl ⟨slashless, none, ?_⟩
    rw [bare]
    rfl
  · refine .inr ⟨front, last, cut, slashless, ?_⟩
    obtain ⟨slashes, bare, none⟩ | ⟨some, named⟩ := first
    · refine .inl ⟨slashes, none, ?_⟩
      rw [bare, under, if_pos (by simp)]
      simp
    · have solid := getLast?_withoutLast importer
      have full : (withoutLast importer).isEmpty = false := by simpa using some
      refine .inr ⟨some, ?_⟩
      rw [named, under, if_neg (by simp [full, solid])]

/-- The slashes at the start of a text that ends otherwise are those of any longer one. -/
theorem root_append (full : front ≠ []) (solid : front.getLast? ≠ some '/') (more : List Char) :
    root (front ++ more) = root front := by
  have other : ¬ (front.takeWhile (· == '/')).length = front.length := by
    intro all
    have same := (List.takeWhile_sublist _).eq_of_length all
    have slash := List.takeWhile_eq_self_iff.mp same _ (List.getLast_mem full)
    rw [List.getLast?_eq_some_getLast full] at solid
    exact solid (congrArg some (beq_iff_eq.mp slash))
  rw [root, root, List.takeWhile_append, if_neg other]

/-- A path from a folder starts with the slashes that the folder starts with. -/
theorem root_under (dotted : path.head? = some '.') :
    root (under (directory importer) path) = root importer := by
  have none : path.takeWhile (· == '/') = [] := by
    obtain ⟨rest, rfl⟩ := List.head?_eq_some_iff.mp dotted
    rfl
  obtain ⟨slashless, -, same⟩ | ⟨front, last, rfl, slashless, ⟨slashes, -, same⟩ | ⟨some, same⟩⟩ :=
    under_directory importer path
  · rw [same, root_slashless slashless, root, none]
    rfl
  · have all : ∀ c ∈ front ++ ['/'], (c == '/') = true := by
      intro c mem
      obtain mem | mem := List.mem_append.mp mem
      · exact beq_iff_eq.mpr (slashes c mem)
      · exact beq_iff_eq.mpr (List.mem_singleton.mp mem)
    have cut (more : List Char) : front ++ '/' :: more = (front ++ ['/']) ++ more := by simp
    rw [same, cut path, cut last, root, root, List.takeWhile_append_of_pos all,
      List.takeWhile_append_of_pos all, none, takeWhile_slashless slashless]
  · have solid := getLast?_withoutLast (front ++ '/' :: last)
    rw [same, root_append some solid]
    rw [withoutLast_cut front slashless] at some solid ⊢
    obtain ⟨slashes, -, cut⟩ := exists_slashes front
    conv_rhs => rw [cut, List.append_assoc]
    exact (root_append some solid _).symm

theorem stepsOf_under (importer path : List Char) :
    stepsOf (under (directory importer) path) =
      stepsOf (withoutLast importer) ++ stepsOf path := by
  obtain ⟨-, none, same⟩ | ⟨front, last, -, -, ⟨slashes, none, same⟩ | ⟨-, same⟩⟩ :=
    under_directory importer path
  · rw [same, none]
    rfl
  · have nowhere : stepsOf front = [] := stepsOf_slashes slashes []
    rw [same, none, stepsOf_cut, nowhere]
    rfl
  · rw [same, stepsOf_cut]

/-- **Where a path from a unit leads**: some steps back from the folder of the unit, and from there
to the names of the path. -/
theorem trail_under (rooted : Bool) (importer path : List Char) :
    trail rooted (under (directory importer) path) =
      (leadOf path).names.reverse ++
        (retreat rooted)^[(leadOf path).backs] (trail rooted (withoutLast importer)) := by
  rw [trail, stepsOf_under, List.foldl_append, foldl_stepsOf]
  rfl

/-! ## The two names of a unit -/

/-- The slashes of a root are not a folder and a slash after it. -/
theorem root_ne {root folder : List Char}
    (slashes : root = [] ∨ root = ['/'] ∨ root = ['/', '/']) (full : folder ≠ [])
    (solid : folder.getLast? ≠ some '/') : root ≠ folder ++ ['/'] := by
  intro same
  obtain ⟨c, rest, rfl⟩ := List.exists_cons_of_ne_nil full
  obtain rfl | rfl | rfl := slashes
  · cases same
  · simp at same
  · cases rest with
    | nil => exact solid (congrArg some (List.cons.inj same).1.symm)
    | cons d rest => simp at same

/-- Names are written alike below a trail and below a folder if and only if the folder is the trail
as it is written. -/
theorem written_eq_iff {root folder : List Char} {taken names : List (List Char)}
    (slashes : root = [] ∨ root = ['/'] ∨ root = ['/', '/']) (solid : folder.getLast? ≠ some '/')
    (named : ∀ step ∈ taken, IsName step) (full : names ≠ []) :
    (root ++ ['/'].intercalate (taken.reverse ++ names) =
        if folder = [] then ['/'].intercalate names
        else folder ++ '/' :: ['/'].intercalate names) ↔
      (root ≠ [] → taken ≠ []) ∧ folder = root ++ ['/'].intercalate taken.reverse := by
  by_cases bare : folder = [] <;> by_cases none : taken = []
  · rw [if_pos bare, bare, none]
    simp
  · have full' : taken.reverse ≠ [] := by simpa using none
    obtain ⟨c, last, -⟩ := getLast?_intercalate full' fun s mem => named s (List.mem_reverse.mp mem)
    rw [if_pos bare, bare, intercalate_append full' full]
    constructor
    · intro same
      have length := congrArg List.length same
      simp only [List.length_append, List.length_cons] at length
      omega
    · rintro ⟨-, same⟩
      rw [(List.append_eq_nil_iff.mp same.symm).2] at last
      cases last
  · rw [if_neg bare, none]
    constructor
    · intro same
      have cut : root ++ ['/'].intercalate names =
          (folder ++ ['/']) ++ ['/'].intercalate names := by simpa using same
      exact absurd (List.append_cancel_right cut) (root_ne slashes bare solid)
    · rintro ⟨below, same⟩
      have rootless : root = [] := not_not.mp fun some => below some rfl
      rw [rootless] at same
      exact absurd same bare
  · have full' : taken.reverse ≠ [] := by simpa using none
    rw [if_neg bare, intercalate_append full' full, ← List.append_assoc, List.append_left_inj]
    exact ⟨fun same => ⟨fun _ => none, same.symm⟩, fun same => same.2.symm⟩

/-- No slash is left at the end of a folder. -/
theorem getLast?_folderOf (importer : List Char) (backs : Nat) :
    (folderOf importer backs).getLast? ≠ some '/' := by
  rw [folderOf, ← Function.iterate_succ_apply, Function.iterate_succ_apply']
  exact getLast?_withoutLast _

theorem isName_of_mem_leftOf {backs : Nat} {step : List Char} (mem : step ∈ leftOf importer backs) :
    IsName step := by
  obtain ⟨names, n, same, ordinary, -⟩ :=
    (settled_trail (!(root importer).isEmpty) (withoutLast importer)).retreats backs
  rw [leftOf, same] at mem
  obtain mem | mem := List.mem_append.mp mem
  · exact (ordinary step mem).toIsName
  · exact List.eq_of_mem_replicate mem ▸ isName_back

/-- The shortest name of a unit: the slashes of the importing one, and where the path leads. -/
theorem normalizedChars_under (dotted : path.head? = some '.') :
    normalizedChars (under (directory importer) path) =
      match root importer ++ ['/'].intercalate
          ((leftOf importer (leadOf path).backs).reverse ++ (leadOf path).names) with
      | [] => ['.']
      | name => name := by
  have leads := trail_under (!(root importer).isEmpty) importer path
  rw [trail, stepsOf] at leads
  rw [normalizedChars, root_under dotted, leads, List.reverse_append, List.reverse_reverse]
  rfl

/-- A name with nothing after the last slash is not a normal one. -/
theorem normalizedChars_ne_compilerName (dotted : path.head? = some '.')
    (nameless : (leadOf path).names = []) :
    normalizedChars (under (directory importer) path) ≠ compilerName importer path := by
  have solid := getLast?_folderOf importer (leadOf path).backs
  rw [normalizedChars_under dotted, compilerName, nameless, List.append_nil, List.intercalate_nil]
  split
  · split
    · exact List.cons_ne_nil _ _
    · intro same
      have last := congrArg List.getLast? same
      rw [List.getLast?_append] at last
      cases last
  · rename_i full
    split
    · exact full
    · rename_i bare
      by_cases none : leftOf importer (leadOf path).backs = []
      · rw [none, List.reverse_nil, List.intercalate_nil, List.append_nil]
        exact root_ne (root_cases importer) bare solid
      · intro same
        have some : (leftOf importer (leadOf path).backs).reverse ≠ [] := by simpa using none
        obtain ⟨c, last, other⟩ := getLast?_intercalate some fun step mem =>
          isName_of_mem_leftOf (List.mem_reverse.mp mem)
        have slash := congrArg List.getLast? same
        rw [List.getLast?_append, List.getLast?_append, last] at slash
        exact other (Option.some.inj slash)

/-- **A unit gets the name of the compiler's rule** if and only if the path ends in a name, its steps
back take names off the folder of the importing unit, and what is left of the folder is written
without detours. -/
theorem unitName_eq_iff {importer path : String} (near : isRemote importer = false)
    (relative : isRelative path.toList = true) :
    ∃ name, unitName importer path = .ok name ∧
      (name.toList = compilerName importer.toList path.toList ↔
        (leadOf path.toList).names ≠ [] ∧
          EndsInNames (leadOf path.toList).backs (withoutLast importer.toList) ∧
          IsShortest (root importer.toList)
            (folderOf importer.toList (leadOf path.toList).backs)) := by
  have dotted : path.toList.head? = some '.' := by
    obtain front | front := Bool.or_eq_true_iff.mp relative <;>
      obtain ⟨rest, same⟩ := List.isPrefixOf_iff_prefix.mp front <;>
      exact same ▸ rfl
  refine ⟨String.ofList (normalizedChars (under (directory importer.toList) path.toList)), ?_, ?_⟩
  · rw [unitName, relative, near]
    rfl
  · rw [String.toList_ofList]
    by_cases nameless : (leadOf path.toList).names = []
    · exact iff_of_false (normalizedChars_ne_compilerName dotted nameless)
        fun reads => reads.1 nameless
    · have named : ∀ part ∈ (leftOf importer.toList (leadOf path.toList).backs).reverse ++
          (leadOf path.toList).names, IsName part := by
        intro part mem
        obtain mem | mem := List.mem_append.mp mem
        · exact isName_of_mem_leftOf (List.mem_reverse.mp mem)
        · exact isName_of_mem_leadOf mem
      obtain ⟨c, last, -⟩ := getLast?_intercalate (List.append_ne_nil_of_right_ne_nil _ nameless) named
      rw [normalizedChars_under dotted]
      split
      · rename_i none
        rw [(List.append_eq_nil_iff.mp none).2] at last
        cases last
      · rw [compilerName, written_eq_iff (root_cases _) (getLast?_folderOf _ _)
          (fun _ => isName_of_mem_leftOf) nameless, and_iff_right nameless]
        exact written_retreats_iff (root_cases _) _ _

end

theorem unitName_eq_iff_sibling :
    isRemote "lib/sub/A.sol" = false ∧ isRelative "../B.sol".toList = true ∧
      ∃ name, unitName "lib/sub/A.sol" "../B.sol" = .ok name ∧
        name.toList = compilerName "lib/sub/A.sol".toList "../B.sol".toList := by
  have near : isRemote "lib/sub/A.sol" = false := by decide
  have relative : isRelative "../B.sol".toList = true := by decide
  obtain ⟨name, named, same⟩ := unitName_eq_iff near relative
  have ordinary : IsOrdinary "sub".toList := ⟨⟨by decide, by decide⟩, by decide, by decide⟩
  have short : IsShortest [] "lib".toList :=
    ⟨0, ["lib".toList], fun name mem => List.mem_singleton.mp mem ▸
      ⟨⟨by decide, by decide⟩, by decide, by decide⟩, fun some => absurd rfl some, rfl⟩
  exact ⟨near, relative, name, named, same.mpr ⟨by decide, ⟨ordinary, trivial⟩, short⟩⟩

/-- A step back from a unit that is in no folder is kept, where the compiler drops it; and a dot in
the name of the importing unit is dropped, where the compiler keeps it. -/
theorem unitName_ne_compilerName :
    (unitName "A.sol" "../B.sol" = .ok "../B.sol" ∧
      compilerName "A.sol".toList "../B.sol".toList = "B.sol".toList) ∧
    (unitName "lib/./A.sol" "./B.sol" = .ok "lib/B.sol" ∧
      compilerName "lib/./A.sol".toList "./B.sol".toList = "lib/./B.sol".toList) := by
  refine ⟨⟨?_, ?_⟩, ?_, ?_⟩ <;> rfl

end SolidityRepl.Import
