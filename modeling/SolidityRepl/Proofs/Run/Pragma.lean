import SolidityRepl.Proofs.Run.Protocol
import SolidityRepl.Proofs.Text.Blank
import SolidityRepl.Proofs.Text.Search
import SolidityRepl.Proofs.Text.Split

/-!
# The compiler that a pragma asks for

The version pragma of a program and the compiler of a run are chosen apart from each other, the one
as a text and the other as the range that is read from a text. Both go by the last version pragma of
the session, or else by the version that is set.

* `AsksFor`: version pragmas with one range in them, and nothing else;
* `AsksFor.ofSource?`, `pragmaBehind_iff`: the range that is read, and the one place where the
  header of a program has the words of a pragma;
* `Course.unranged`, `Course.sought_ranged`: what a run asks for;
* `FollowsPragma`, `run_follows_pragma`: all runs ask for the range that their programs ask for.
-/

namespace SolidityRepl

namespace Range

/-- The words of a version pragma, with one space between. -/
theorem afterWords?_words (rest : List Char) :
    afterWords? ("pragma".toList ++ ' ' :: ("solidity".toList ++ rest)) = some rest := by
  have start : "solidity".toList.head? = some 's' := by decide
  have shown : ∀ c ∈ ("solidity".toList ++ rest).head?, Text.isBlank c = false := by
    rw [List.head?_append, start]
    rintro c ⟨⟩
    decide
  have gap : Text.blankRest? (' ' :: ("solidity".toList ++ rest)) =
      some ("solidity".toList ++ rest) := by
    rw [Text.blankRest?, if_pos (by decide), Text.stripStart_shown shown]
  rw [afterWords?, Text.isPrefixOf?_append, Option.bind_some, gap, Option.bind_some,
    Text.isPrefixOf?_append]

end Range

namespace Statement

/-- A version pragma with a range in it, and with no other pragma in that. -/
structure AsksFor (statement : Statement) (range : List Char) : Prop where
  text : statement.text.toList = "pragma solidity ".toList ++ (range ++ [';'])
  closed : ';' ∉ range
  alone : ¬ "pragma".toList <:+: range
  shown : Text.strip range ≠ []

variable {statement : Statement} {range : List Char}

/-- The words of the pragma, and white space behind each. -/
theorem AsksFor.words (asks : statement.AsksFor range) :
    statement.text.toList =
      "pragma".toList ++ ' ' :: ("solidity".toList ++ ' ' :: (range ++ [';'])) := by
  have words :
      "pragma solidity ".toList = "pragma".toList ++ ' ' :: ("solidity".toList ++ [' ']) := by
    decide
  rw [asks.text, words]
  simp only [List.append_assoc, List.cons_append, List.nil_append]

theorem AsksFor.pragmaRange? (asks : statement.AsksFor range) :
    Range.pragmaRange? statement.text.toList = some (Text.stripStart range, []) := by
  have open' : ∀ c ∈ ' ' :: range, (c != ';') = true := by
    intro c mem
    rw [bne_iff_ne]
    rintro rfl
    obtain same | mem := List.mem_cons.mp mem
    · cases same
    · exact asks.closed mem
  have ends : ∀ c ∈ [';'].head?, (c != ';') = false := by
    rintro c ⟨⟩
    rfl
  have kept : (' ' :: (range ++ [';'])).takeWhile (· != ';') = ' ' :: range :=
    Text.takeWhile_until open' ends
  have left : (' ' :: (range ++ [';'])).dropWhile (· != ';') = [';'] :=
    @Text.dropWhile_until (' ' :: range) (· != ';') [';'] open' ends
  have some : range ≠ [] := by
    rintro rfl
    exact asks.shown rfl
  have long : 2 ≤ (' ' :: range).length := by
    have := List.length_pos_iff.mpr some
    simp only [List.length_cons]
    omega
  have none : Range.without ";" [';'] = [] := by decide
  have space : Text.stripStart (' ' :: range) = Text.stripStart range :=
    @Text.stripStart_append [' '] (by decide) range
  rw [Range.pragmaRange?, asks.words, Range.afterWords?_words]
  simp only [kept, left, none, space, decide_eq_true long, Bool.true_or, Bool.and_true]
  rw [if_pos (by decide)]

/-- **The range of a pragma is what stands between its words and its end.** -/
theorem AsksFor.ofSource? (asks : statement.AsksFor range) :
    Range.ofSource? statement.text = some (String.ofList (Text.strip range)) := by
  have nothing : Range.allInSource [] = [] := by
    rw [Range.allInSource]
    rfl
  have all : Range.allInSource statement.text.toList = [Text.stripStart range] := by
    rw [Range.allInSource]
    split
    · rename_i found
      rw [asks.pragmaRange?] at found
      cases found
      rw [nothing]
    · rename_i found
      rw [asks.pragmaRange?] at found
      cases found
  have again : Text.strip (Text.stripStart range) = Text.strip range := by
    rw [Text.strip, Text.strip, Text.stripStart, Text.stripStart, List.dropWhile_idempotent]
  rw [Range.ofSource?, all, List.getLast?_singleton, Option.map_some, again]

/-- The text begins with the only word of its kind. -/
theorem AsksFor.front_eq_nil {front rest : List Char} (asks : statement.AsksFor range)
    (cut : statement.text.toList = front ++ ("pragma".toList ++ rest)) : front = [] := by
  rw [asks.words] at cut
  obtain ⟨more, first⟩ | ⟨front, rfl, second⟩ := Text.cut_beside (by decide) cut
  · have length := congrArg List.length first
    simp only [List.length_append] at length
    exact List.eq_nil_of_length_eq_zero (by omega)
  · exfalso
    obtain ⟨more, inner⟩ | ⟨front, rfl, third⟩ := Text.cut_beside (by decide) second
    · have plain : ¬ "pragma".toList <:+: "solidity".toList := by decide
      exact plain ⟨front, more, by rw [inner, List.append_assoc]⟩
    · obtain ⟨more, inner⟩ | ⟨front, rfl, last⟩ := Text.cut_beside (by decide) third
      · exact asks.alone ⟨front, more, by rw [inner, List.append_assoc]⟩
      · have length := congrArg List.length last
        simp at length

end Statement

/-! ## The header of a program -/

namespace Frame

open Text

/-- A text has the words of a version pragma behind its front. -/
def PragmaBehind (cs front : List Char) : Prop :=
  ∃ rest, cs = front ++ ("pragma solidity".toList ++ rest)

theorem PragmaBehind.word {cs front : List Char} (pragma : PragmaBehind cs front) :
    ∃ rest, cs = front ++ ("pragma".toList ++ rest) := by
  obtain ⟨rest, rfl⟩ := pragma
  have words : "pragma solidity".toList = "pragma".toList ++ " solidity".toList := by decide
  exact ⟨" solidity".toList ++ rest, by rw [words, List.append_assoc]⟩

theorem licence_plain : ¬ "pragma".toList <:+: licence.toList := by decide

/-- There is no pragma in the licence line. -/
theorem not_pragmaBehind_licence (front : List Char) : ¬ PragmaBehind licence.toList front := by
  intro pragma
  obtain ⟨rest, cut⟩ := pragma.word
  exact licence_plain ⟨front, rest, by rw [cut, List.append_assoc]⟩

theorem pragmaBehind_second (rest : List Char) :
    PragmaBehind (licence.toList ++ '\n' :: ("pragma solidity ".toList ++ rest))
      (licence.toList ++ ['\n']) := by
  have words : "pragma solidity ".toList = "pragma solidity".toList ++ [' '] := by decide
  refine ⟨' ' :: rest, ?_⟩
  rw [words]
  simp only [List.append_assoc, List.cons_append, List.nil_append]

theorem pragmaBehind_version (version : String) :
    PragmaBehind (licence.toList ++ '\n' :: ("pragma solidity " ++ version ++ ";").toList)
      (licence.toList ++ ['\n']) := by
  rw [String.toList_append, String.toList_append, List.append_assoc]
  exact pragmaBehind_second _

/-- A header with a pragma has one place for it: the beginning of the second line. -/
theorem pragmaBehind_iff {statement : Statement} {range : List Char}
    (asks : statement.AsksFor range) (front : List Char) :
    PragmaBehind (licence.toList ++ '\n' :: statement.text.toList) front ↔
      front = licence.toList ++ ['\n'] := by
  constructor
  · intro pragma
    obtain ⟨rest, cut⟩ := pragma.word
    obtain ⟨more, first⟩ | ⟨before, rfl, second⟩ := cut_beside (by decide) cut
    · exact absurd ⟨front, more, by rw [first, List.append_assoc]⟩ licence_plain
    · rw [asks.front_eq_nil second]
  · rintro rfl
    rw [asks.text]
    exact pragmaBehind_second _

variable {frame : Frame} {session : Session}

/-- The header of a session whose pragma is known. -/
theorem header_of_governing {pragma : Statement} (governs : session.governingPragma? = some pragma) :
    frame.header session = licence.toList ++ '\n' :: pragma.text.toList := by
  rw [header, pragma?, governs]

/-- Without a pragma of its own a session has that of the version. -/
theorem header_of_version {version : String} (none : session.governingPragma? = none)
    (given : frame.version = some version) :
    frame.header session =
      licence.toList ++ '\n' :: ("pragma solidity " ++ version ++ ";").toList := by
  rw [header, pragma?, none, given]
  rfl

theorem header_of_none (none : session.governingPragma? = none) (unset : frame.version = .none) :
    frame.header session = licence.toList := by
  rw [header, pragma?, none, unset]
  rfl

/-- A program begins with its header. -/
theorem header_prefix_render (frame : Frame) (session : Session) :
    frame.header session ++ gap <+: (frame.render session).toList := by
  have more (parts : List (List Char)) (last : List Char) :
      frame.header session ++ gap <+:
        gap.intercalate (frame.header session :: (parts ++ [last])) := by
    cases parts with
    | nil => exact ⟨last, by simp [List.intercalate_cons_cons]⟩
    | cons part parts =>
      exact ⟨_, by rw [List.cons_append, List.intercalate_cons_cons]⟩
  rw [render, String.toList_ofList, parts_eq, List.cons_append]
  exact (more _ _).trans (List.prefix_append _ _)

end Frame

namespace Session

variable {session : Session}

/-- The last version pragma governs. -/
theorem governingPragma?_cut {before after : Session} {pragma : Statement}
    (own : pragma.scope = .versionPragma)
    (others : ∀ statement ∈ after, statement.scope ≠ .versionPragma) :
    Session.governingPragma? (before ++ pragma :: after) = some pragma := by
  have none : after.filter (fun s => s.scope == .versionPragma) = [] := by
    simpa [List.filter_eq_nil_iff] using others
  simp [governingPragma?, inScope, own, none]

theorem governingPragma?_eq_none
    (others : ∀ statement ∈ session, statement.scope ≠ .versionPragma) :
    session.governingPragma? = none := by
  have none : session.filter (fun s => s.scope == .versionPragma) = [] := by
    simpa [List.filter_eq_nil_iff] using others
  rw [governingPragma?, inScope, none]
  rfl

theorem mem_of_governingPragma? {pragma : Statement}
    (governs : session.governingPragma? = some pragma) :
    pragma ∈ session ∧ pragma.scope = .versionPragma := by
  have mem := List.mem_of_getLast? governs
  simpa [inScope] using mem

end Session

/-! ## What runs ask for -/

namespace Desk

variable {s : Settings} {session : Session} {statement : Statement} {calls : List Call}

theorem Pass.unranged {r : Except Failure CompileResult} {e : Failure}
    (none : range s session = .error e) (pass : Pass s session calls r) :
    calls = [] ∧ r = .error e := by
  cases pass with
  | noRange range =>
    rw [none] at range
    cases range
    exact ⟨rfl, rfl⟩
  | noCompiler range | compiled range =>
    rw [none] at range
    cases range

theorem Settled.unranged {cause : List Diagnostic → Option Failure} {r : Except Failure Value}
    {e : Failure} (none : range s session = .error e) (settled : Settled s session cause calls r) :
    calls = [] ∧ r = .error e := by
  cases settled with
  | broken pass =>
    obtain ⟨rfl, same⟩ := pass.unranged none
    cases same
    exact ⟨rfl, rfl⟩
  | taken pass _ =>
    obtain ⟨-, same⟩ := pass.unranged none
    cases same
  | refused pass _ =>
    obtain ⟨-, same⟩ := pass.unranged none
    cases same

variable {final : Statement} {r : Except Failure Value}

/-- **Without a range a run fails before it asks anything.** -/
theorem Course.unranged {e : Failure} (none : range s (session.push statement) = .error e)
    (course : Course s session statement calls r final) : calls = [] ∧ r = .error e := by
  cases course with
  | once settled => exact settled.unranged none
  | again pass _ _ _ =>
    obtain ⟨-, same⟩ := pass.unranged none
    cases same

/-- A compiler is asked for once, or twice by the same range. -/
def Seeks (calls : List Call) (spec : String) : Prop :=
  sought calls = [spec] ∨ sought calls = [spec, spec]

/-- **All compilers of a run are asked for by one range.** -/
theorem Course.sought_ranged {spec : String} (ranged : range s (session.push statement) = .ok spec)
    (course : Course s session statement calls r final) : Seeks calls spec := by
  cases course with
  | once settled =>
    left
    rw [settled.sought, ranged]
    rfl
  | again pass _ given settled =>
    right
    have ranged' : range s (session.push _) = .ok spec :=
      (range_typed (.typed given)).trans ranged
    rw [sought_append, pass.sought, settled.sought, ranged, ranged']
    rfl

theorem Settled.tried_sources {cause : List Diagnostic → Option Failure}
    (settled : Settled s session cause calls r) :
    ∀ pass ∈ tried calls, pass.1 = sources s session := by
  intro pass mem
  obtain ⟨answer, tries⟩ | ⟨none, -⟩ := settled.compiles
  · rw [tries, List.mem_singleton] at mem
    rw [mem]
  · rw [none] at mem
    cases mem

/-- All programs of a run are those of the session with its statement, with a type or without. -/
theorem Course.tried_sources (course : Course s session statement calls r final) :
    ∀ pass ∈ tried calls, ∃ typed, statement.Becomes typed ∧
      pass.1 = sources s (session.push typed) := by
  intro pass mem
  cases course with
  | once settled => exact ⟨statement, .same, settled.tried_sources pass mem⟩
  | again first _ given settled =>
    rw [tried_append, first.outline_ok.1] at mem
    obtain mem | mem := List.mem_append.mp mem
    · rw [List.mem_singleton] at mem
      exact ⟨statement, .same, by rw [mem]⟩
    · exact ⟨_, .typed given, settled.tried_sources pass mem⟩

theorem version_ofSettings {version : Option String}
    (set : s.read .installedVersion = (version.map Json.str).getD .null) :
    (Frame.ofSettings s).version = version := by
  cases version <;> simp [Frame.ofSettings, set, Json.shown]

theorem range_of_governing {pragma : Statement} {asked : List Char}
    (governs : session.governingPragma? = some pragma) (asks : pragma.AsksFor asked) :
    range s session = .ok (String.ofList (Text.strip asked)) := by
  simp only [range, governs, Option.bind_some, asks.ofSource?]

theorem range_of_version {version : String} (none : session.governingPragma? = none)
    (given : s.read .installedVersion = .str version) : range s session = .ok version := by
  simp only [range, none, Option.bind_none, given]

theorem range_of_none (none : session.governingPragma? = none)
    (unset : s.read .installedVersion = .null) : range s session = .error .noCompilerVersion := by
  simp only [range, none, Option.bind_none, unset]

/-- **There is a range just if there is a pragma in the header.** -/
theorem range_cases {version : Option String}
    (set : s.read .installedVersion = (version.map Json.str).getD .null)
    (formed : ∀ pragma ∈ session, pragma.scope = .versionPragma →
      ∃ range, pragma.AsksFor range) :
    (∃ spec front, range s session = .ok spec ∧
        Frame.PragmaBehind ((Frame.ofSettings s).header session) front) ∨
      range s session = .error .noCompilerVersion ∧
        ∀ front, ¬ Frame.PragmaBehind ((Frame.ofSettings s).header session) front := by
  cases governs : session.governingPragma? with
  | some pragma =>
    obtain ⟨mem, own⟩ := Session.mem_of_governingPragma? governs
    obtain ⟨asked, asks⟩ := formed pragma mem own
    refine .inl ⟨_, Frame.licence.toList ++ ['\n'], range_of_governing governs asks, ?_⟩
    rw [Frame.header_of_governing governs]
    exact (Frame.pragmaBehind_iff asks _).mpr rfl
  | none =>
    have known := version_ofSettings set
    cases version with
    | some version =>
      refine .inl ⟨_, Frame.licence.toList ++ ['\n'], range_of_version governs set, ?_⟩
      rw [Frame.header_of_version governs known]
      exact Frame.pragmaBehind_version version
    | none =>
      refine .inr ⟨range_of_none governs set, ?_⟩
      rw [Frame.header_of_none governs known]
      exact Frame.not_pragmaBehind_licence

/-- The pragma of a statement does not depend on its type. -/
theorem header_typed {typed : Statement} (becomes : statement.Becomes typed) (frame : Frame) :
    frame.header (session.push typed) = frame.header (session.push statement) := by
  rw [Frame.header, Frame.header, frame.pragma?_congr (pairs_typed becomes session)]

/-- The compilers that a run asks for and the pragmas of its programs, told by its calls and its
answer. -/
structure FollowsPragma (s : Settings) (version : Option String) (session : Session)
    (calls : List Call) (r : Except Failure Value) : Prop where
  /-- The last version pragma gives the range, and it is the only pragma in the header. -/
  governed : ∀ before pragma after range, session = before ++ pragma :: after →
    pragma.scope = .versionPragma → (∀ later ∈ after, later.scope ≠ .versionPragma) →
    pragma.AsksFor range →
    Seeks calls (String.ofList (Text.strip range)) ∧
      (Frame.ofSettings s).header session = Frame.licence.toList ++ '\n' :: pragma.text.toList ∧
      ∀ front, Frame.PragmaBehind ((Frame.ofSettings s).header session) front ↔
        front = Frame.licence.toList ++ ['\n']
  /-- Without one the version that is set gives both. -/
  default : (∀ other ∈ session, other.scope ≠ .versionPragma) → ∀ own, version = some own →
    Seeks calls own ∧ (Frame.ofSettings s).header session =
      Frame.licence.toList ++ '\n' :: ("pragma solidity " ++ own ++ ";").toList
  /-- A run fails for want of a version, before it asks anything, just if there is no pragma. -/
  unset : r = .error .noCompilerVersion ∧ calls = [] ↔
    ∀ front, ¬ Frame.PragmaBehind ((Frame.ofSettings s).header session) front
  /-- All programs of the run have that header. -/
  programs : ∀ pass ∈ tried calls, ∃ program : String,
    pass.1 = [((Frame.ofSettings s).unitName, Import.sourceOf program)] ∧
      (Frame.ofSettings s).header session ++ Frame.gap <+: program.toList

theorem Course.followsPragma {version : Option String}
    (set : s.read .installedVersion = (version.map Json.str).getD .null)
    (formed : ∀ pragma ∈ session.push statement, pragma.scope = .versionPragma →
      ∃ range, pragma.AsksFor range)
    (course : Course s session statement calls r final) :
    FollowsPragma s version (session.push statement) calls r where
  governed before pragma after range cut own others asks := by
    have governs : (session.push statement).governingPragma? = some pragma :=
      cut ▸ Session.governingPragma?_cut own others
    have header : (Frame.ofSettings s).header (session.push statement) =
        Frame.licence.toList ++ '\n' :: pragma.text.toList := Frame.header_of_governing governs
    refine ⟨course.sought_ranged (range_of_governing governs asks), header, ?_⟩
    rw [header]
    exact Frame.pragmaBehind_iff asks
  default others own given := by
    subst given
    have none : (session.push statement).governingPragma? = none :=
      Session.governingPragma?_eq_none others
    exact ⟨course.sought_ranged (range_of_version none set),
      Frame.header_of_version none (version_ofSettings set)⟩
  unset := by
    obtain ⟨spec, front, ranged, pragma⟩ | ⟨unranged, plain⟩ := range_cases set formed
    · have seeks : Seeks calls spec := course.sought_ranged ranged
      refine ⟨fun silent => ?_, fun plain => absurd pragma (plain front)⟩
      rw [Seeks, silent.2] at seeks
      obtain seeks | seeks := seeks <;> cases seeks
    · obtain ⟨silent, fails⟩ := course.unranged unranged
      exact ⟨fun _ => plain, fun _ => ⟨fails, silent⟩⟩
  programs pass mem := by
    obtain ⟨typed, becomes, sources⟩ := course.tried_sources pass mem
    refine ⟨program s (session.push typed), sources, ?_⟩
    rw [← header_typed becomes]
    exact Frame.header_prefix_render _ _

variable {W : Type} {ok : W → Prop} {tools : Tools W}

/-- **A run asks for the compiler that its programs ask for**, once or twice, and always by the same
range. -/
theorem run_follows_pragma (apart : tools.Apart ok) (s : Settings) {version : Option String}
    (set : s.read .installedVersion = (version.map Json.str).getD .null) (statement : Statement)
    (d : Desk W) (h : ok d.world)
    (formed : ∀ pragma ∈ d.session.push statement, pragma.scope = .versionPragma →
      ∃ range, pragma.AsksFor range) :
    FollowsPragma s version (d.session.push statement) (asked tools s statement d)
      ((run tools s statement).run d).1 := by
  obtain ⟨final, r, after, ran⟩ := run_ran apart s statement h
  rw [ran.goes.run]
  exact ran.course.followsPragma set formed

/-- The version that is set gives way to the pragma that is put in. -/
theorem run_follows_pragma_span :
    let statement : Statement := .ofText "pragma solidity  >=0.7 <0.9" none
    statement.AsksFor " >=0.7 <0.9".toList ∧
      Seeks (asked (Tools.scripted .nothing) .default statement { world := [] }) ">=0.7 <0.9" := by
  intro statement
  have text : statement.text.toList =
      "pragma solidity ".toList ++ (" >=0.7 <0.9".toList ++ [';']) := by
    decide +kernel
  have asks : statement.AsksFor " >=0.7 <0.9".toList :=
    ⟨text, by decide, by decide, by decide⟩
  have formed : ∀ pragma ∈ Session.push [] statement, pragma.scope = .versionPragma →
      ∃ range, pragma.AsksFor range := by
    intro pragma mem _
    obtain rfl := List.mem_singleton.mp mem
    exact ⟨_, asks⟩
  have set : Settings.default.read .installedVersion =
      ((some "0.8.26").map Json.str).getD .null := rfl
  have follows := run_follows_pragma (Tools.scripted_apart .nothing) .default set statement
    { world := [] } trivial formed
  have own : statement.scope = .versionPragma := by decide +kernel
  have none : ∀ later ∈ ([] : Session), later.scope ≠ .versionPragma := by simp
  have stripped : String.ofList (Text.strip " >=0.7 <0.9".toList) = ">=0.7 <0.9" := by decide
  refine ⟨asks, ?_⟩
  rw [← stripped]
  exact (follows.governed [] statement [] _ rfl own none asks).1

end Desk

end SolidityRepl
