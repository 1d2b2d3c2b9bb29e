import SolidityRepl.Proofs.Compiler.Shelf

/-!
# Compilers that a pragma accepts

A compiler that stands on a shelf is taken by every comparison of a range, and so it is meant by all
but those that are misread: a tilde or a greater sign with two numbers, and a caret that does not
come first with a zero and another number.
-/

namespace SolidityRepl.Shelf

open Version

variable {O T : Type}

/-- A version that every conjunction which writes a key takes. -/
def IsTaken (key : String) (v : Version) : Prop :=
  ∀ q : Range.Conjunction, q.Writes key.toList → q.first.sign ≠ .caret → q.Takes v.triple

theorem isTaken_of_isChosen {key : String} {v : Version} (chosen : IsChosen O T key v) :
    IsTaken key v := by
  obtain ⟨host, s, final, chosen⟩ := chosen
  rw [Registry.resolve_run key final] at chosen
  split at chosen
  · cases chosen
  · obtain ⟨offered, through⟩ := Registry.choose_mem (Except.ok.inj chosen)
    have out : v.IsFinal := offered.elim (final.installed v) (final.installable v)
    intro q writes bare
    exact (Range.lets_iff writes bare out.isRelease).mp through

/-- A version that is known to be there is what its key says. -/
theorem isTaken_of_read {key : String} {v : Version} (read : Version.read key = .ok v) :
    IsTaken key v := by
  intro q writes _
  rw [Version.read, Text.strip_of_trim writes.trim, ofChars] at read
  split at read
  · cases read
  · rename_i w known
    obtain ⟨alone, sign, rfl⟩ := writes.of_read known
    split at read
    · cases read
    · cases read
      rw [Range.Conjunction.Takes, Range.Conjunction.all, alone, Range.Comparison.triple_version]
      simp [Range.Comparison.Takes, sign]

theorem stands_ofInstalled {version : Json} {start : Shelf}
    (started : ofInstalled version = .ok start) : Stands IsTaken start := by
  have empty : Stands IsTaken {} := ⟨nofun, nofun⟩
  obtain ⟨-, rfl⟩ | ⟨spec, v, -, read, rfl⟩ := ofInstalled_cases started
  · exact empty
  · exact empty.put_resolved (isTaken_of_read read)

/-- What a shelf may be asked for: it was started with or without a version that is known, and has
been asked for other ranges since. -/
def Comes (O T : Type) (shelf : Shelf) : Prop :=
  ∃ version start, ofInstalled version = .ok start ∧ Grown O T start shelf

/-- A range of which every compiler that is given for it is accepted. -/
def IsAccepting (O T : Type) (q : Range.Conjunction) (spec : String) : Prop :=
  ∀ (host : Host O) (shelf : Shelf) (s : Registry.At O T) (compiler : Compiler),
    Registry.IsFinal host s → Comes O T shelf → answer host shelf s spec = .ok compiler →
      q.Admits compiler.version.triple

variable {host : Host O} {shelf : Shelf} {s : Registry.At O T} {spec : String}
  {q : Range.Conjunction}

/-- **A compiler is taken by the key of the range that it is given for.** -/
theorem takes_of_answer (range : q.IsRange spec) (final : Registry.IsFinal host s)
    (comes : Comes O T shelf) {compiler : Compiler}
    (answered : answer host shelf s spec = .ok compiler) :
    q.faced.Takes compiler.version.triple := by
  obtain ⟨version, start, started, grown⟩ := comes
  have chosen (key : String) (v : Version) (chosen : IsChosen O T key v) : IsTaken key v :=
    isTaken_of_isChosen chosen
  have stands := grown.stands (stands_ofInstalled started) chosen
  have taken := (stands.request chosen final spec).2 compiler answered
  exact taken q.faced range.faced q.first.sign_faced_ne

theorem takes_of_faced {v : Triple} (takes : q.faced.Takes v) : q.Takes v := by
  by_cases caret : q.first.sign = .caret
  · exact ((Range.Conjunction.takes_faced_iff caret).mp takes).2
  · rwa [Range.Conjunction.faced, Range.Comparison.faced, if_neg caret] at takes

/-- A caret at the start means the release that its key says, among others. -/
theorem admits_first {v : Triple} (caret : q.first.sign = .caret) (takes : q.faced.Takes v) :
    q.first.Admits v := by
  rw [((Range.Conjunction.takes_faced_iff caret).mp takes).1, Range.Comparison.Admits, caret]
  simp only [Range.Comparison.caretEnd, Range.Comparison.first, Range.Comparison.nextMinor,
    Range.Comparison.nextMajor, Triple.Below]
  split <;> simp

/-- With one release installed, any shelf that is new to a range gives what its key takes. -/
theorem exists_answer [Inhabited O] [Inhabited T] (range : q.IsRange spec)
    (short : Range.isOverlong spec = false) {v : Triple} (takes : q.faced.Takes v) :
    ∃ (host : Host O) (s : Registry.At O T) (compiler : Compiler), Registry.IsFinal host s ∧
      answer host {} s spec = .ok compiler ∧ compiler.version.triple = v := by
  let w : Version := { release := [v.major, v.minor, v.patch] }
  have out : w.IsFinal := ⟨_, _, _, rfl⟩
  have final : Registry.IsFinal (idle O) (among (T := T) [w]) :=
    ⟨fun u there => List.mem_singleton.mp there ▸ out, nofun⟩
  have through : Range.lets (Range.normalized spec) w = true :=
    (Range.lets_iff range.faced q.first.sign_faced_ne out.isRelease).mpr takes
  have free : IsFree {} spec := ⟨rfl, rfl⟩
  have asked := free.version_answer (idle O) (among (T := T) [w])
  rw [Registry.resolve_run _ final, range.isOverlong_normalized, short,
    show (among (O := O) (T := T) [w]).2.installed = [w] from rfl,
    show (idle O).installable = [] from rfl, Registry.choose_alone, through] at asked
  obtain ⟨compiler, answered, version⟩ := exists_version_iff.mpr asked
  exact ⟨idle O, among [w], compiler, final, answered, by rw [version]; rfl⟩

/-- **A range is accepting if its key takes nothing that it does not mean, and only then.** -/
theorem isAccepting_iff [Inhabited O] [Inhabited T] (range : q.IsRange spec)
    (short : Range.isOverlong spec = false) :
    IsAccepting O T q spec ↔ ∀ v, q.faced.Takes v → q.Admits v := by
  constructor
  · intro accepting v takes
    obtain ⟨host, s, compiler, final, answered, rfl⟩ :=
      exists_answer (O := O) (T := T) range short takes
    exact accepting host {} s compiler final ⟨.null, {}, rfl, .start⟩ answered
  · intro admits host shelf s compiler final comes answered
    exact admits _ (takes_of_answer range final comes answered)

/-- **A compiler that is given for a range is accepted by each of its comparisons that is not
misread, and by a caret at the start.** The range accepts all that it is given just if no release is
taken that one of them does not mean; one comparison alone does if it is not misread. -/
theorem resolve_admits [Inhabited O] [Inhabited T] (range : q.IsRange spec) :
    (∀ (host : Host O) (shelf : Shelf) (s : Registry.At O T) (compiler : Compiler),
      Registry.IsFinal host s → Comes O T shelf → answer host shelf s spec = .ok compiler →
        q.faced.Takes compiler.version.triple ∧
        (∀ c ∈ q.all, ¬ c.IsMisread → c.Admits compiler.version.triple) ∧
        (q.first.sign = .caret → q.first.Admits compiler.version.triple)) ∧
    (Range.isOverlong spec = false →
      (IsAccepting O T q spec ↔ ∀ v, q.faced.Takes v → q.Admits v) ∧
      (q.others = [] → (IsAccepting O T q spec ↔
        (q.first.IsMisread → q.first.sign = .caret)))) := by
  refine ⟨?_, fun short => ⟨isAccepting_iff range short, fun alone => ?_⟩⟩
  · intro host shelf s compiler final comes answered
    have takes := takes_of_answer range final comes answered
    refine ⟨takes, fun c among read => ?_, fun caret => admits_first caret takes⟩
    exact Range.Comparison.admits_of_takes read (takes_of_faced takes c among)
  · rw [isAccepting_iff range short]
    have single (p : Range.Comparison → Prop) : (∀ c ∈ q.all, p c) ↔ p q.first := by
      rw [Range.Conjunction.all, alone]
      exact List.forall_mem_singleton
    simp only [Range.Conjunction.Admits, single]
    constructor
    · intro admits misread
      by_contra other
      obtain ⟨v, takes, means⟩ := Range.Comparison.exists_of_isMisread misread
      refine means (admits v ?_)
      rw [Range.Conjunction.faced, Range.Comparison.faced, if_neg other]
      exact (single (·.Takes v)).mpr takes
    · intro caret v takes
      by_cases misread : q.first.IsMisread
      · exact admits_first (caret misread) takes
      · exact Range.Comparison.admits_of_takes misread
          (takes_of_faced takes q.first List.mem_cons_self)

theorem apart_atLeast : Range.Sign.atLeast = .bare → [' '] = [] := fun bare => nomatch bare

def zero : Range.Numeral := ⟨['0'], List.cons_ne_nil _ _, List.forall_mem_singleton.mpr rfl⟩

def eight : Range.Numeral := ⟨['8'], List.cons_ne_nil _ _, List.forall_mem_singleton.mpr rfl⟩

/-- From 0.8.0 on, and with its minor number at most. -/
def fromTo : Range.Conjunction where
  first := ⟨.atLeast, [' '], false, zero, eight, some zero, Text.blank_space, apart_atLeast⟩
  others := [⟨.atMost, [], true, zero, eight, none, Text.blank_nil, Range.close_nil .atMost⟩]

theorem resolve_admits_fromTo : fromTo.IsRange ">= 0.8.0 <=v0.8 " ∧
    IsAccepting Unit Rat fromTo ">= 0.8.0 <=v0.8 " := by
  have range : fromTo.IsRange ">= 0.8.0 <=v0.8 " :=
    ⟨[], _, [' '], Text.blank_nil, Text.blank_space,
      ⟨_, .more (List.cons_ne_nil _ _) Text.blank_space .none, rfl⟩, by decide⟩
  refine ⟨range, ?_⟩
  intro host shelf s compiler final comes answered c among
  refine ((resolve_admits range).1 host shelf s compiler final comes answered).2.1 c among ?_
  rintro ⟨_, signs⟩
  rcases List.mem_cons.mp among with rfl | among
  · simp [fromTo] at signs
  · rw [List.mem_singleton.mp among] at signs
    simp at signs

def tilde : Range.Conjunction :=
  ⟨⟨.tilde, [], false, zero, eight, none, Text.blank_nil, Range.close_nil .tilde⟩, []⟩

def next : Version := { release := [0, 9, 0] }

/-- A tilde with two numbers is given the next series. -/
theorem resolve_tilde_series : tilde.IsRange "~0.8" ∧
    Registry.IsFinal (idle Unit) (among (T := Rat) [recent, next]) ∧
    answer (idle Unit) {} (among (T := Rat) [recent, next]) "~0.8" =
      .ok { version := next, store := .null } ∧ ¬ tilde.Admits next.triple := by
  refine ⟨⟨[], _, [], Text.blank_nil, Text.blank_nil, ⟨[], .none, rfl⟩, by decide⟩,
    ⟨?_, List.forall_mem_nil _⟩, rfl, ?_⟩
  · intro v there
    rcases List.mem_cons.mp there with rfl | there
    · exact ⟨_, _, _, rfl⟩
    · rw [List.mem_singleton.mp there]
      exact ⟨_, _, _, rfl⟩
  · intro admits
    have below := (admits tilde.first List.mem_cons_self).2
    revert below
    decide

end SolidityRepl.Shelf
