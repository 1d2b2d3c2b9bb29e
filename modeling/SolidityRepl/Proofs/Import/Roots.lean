import SolidityRepl.Import.Roots
import SolidityRepl.Proofs.Node.Talk
import SolidityRepl.Proofs.Path.Climb
import SolidityRepl.Proofs.World.Walk

/-!
# What is said about imports

An import is looked for below one folder after the other, and the first of them with a file of that
name decides. Only faults of the system while that file is read, and faults of a request, become part
of an answer: a path that cannot be followed and a file that is no text end the search with a failure.

* `Route.Finds`, `Route.Fails`, `Route.Vacant`: what a path can lead to;
* `First`: the first folder that decides;
* `Says`: every answer and failure, with what is done for it;
* `lookUp_says`: what is said about an import, and when there is no answer.
-/

namespace SolidityRepl

/-- A reply that says that a request went wrong is a fault of the request. -/
theorem Reply.isFault_of_fault? {reply : Reply} {url : String} {e : Failure}
    (fault : reply.fault? url = some e) : e.isFault .request = true := by
  unfold Reply.fault? at fault
  dsimp only at fault
  split at fault
  · cases fault
    rfl
  · split at fault
    · cases fault
      rfl
    · cases fault

namespace Import

variable {O T : Type} {host : Host O} {disk : Folder T}

/-! ## What a path leads to -/

namespace Route

variable {route : Route} {content : Content} {e : Failure}

/-- A file stands at the end of a path. -/
structure Finds (route : Route) (host : Host O) (disk : Folder T) (content : Content) : Prop where
  clean : Path.isNowhere route.steps = false
  short : route.shown.utf8ByteSize < 4096
  free : host.barred route.shown = none
  shows : Folder.Shows (route.start host.above disk.timeless).1
    (route.start host.above disk.timeless).2 route.steps content ()

/-- A path cannot be followed: it is too long, it is barred, or a name in it is too long. -/
inductive Fails (route : Route) (host : Host O) (disk : Folder T) : Failure → Prop
  | long (clean : Path.isNowhere route.steps = false) (long : 4096 ≤ route.shown.utf8ByteSize) :
      Fails route host disk .unreadablePath
  | barred {e : Failure} (clean : Path.isNowhere route.steps = false)
      (short : route.shown.utf8ByteSize < 4096) (barred : host.barred route.shown = some e) :
      Fails route host disk e
  | chokes (clean : Path.isNowhere route.steps = false) (short : route.shown.utf8ByteSize < 4096)
      (free : host.barred route.shown = none)
      (chokes : Folder.Chokes (route.start host.above disk.timeless).1
        (route.start host.above disk.timeless).2 route.steps) :
      Fails route host disk .unreadablePath

/-- A path can be followed, and there is no file. -/
structure Vacant (route : Route) (host : Host O) (disk : Folder T) : Prop where
  follows : ∀ e, ¬ route.Fails host disk e
  nothing : ∀ content, ¬ route.Finds host disk content

theorem file?_nowhere (dirty : Path.isNowhere route.steps = true) :
    route.file? host disk = .ok none := by
  rw [file?, if_pos dirty]

/-- The file of a path that is not too long and not barred. -/
theorem file?_free (clean : Path.isNowhere route.steps = false)
    (short : route.shown.utf8ByteSize < 4096) (free : host.barred route.shown = none) :
    route.file? host disk =
      ((route.start host.above disk.timeless).2.walk (route.start host.above disk.timeless).1
        route.steps).map fun entry => entry.bind Entry.content? := by
  rw [file?, if_neg (by simp [clean]), if_neg (by omega), free]

theorem Fails.file? (fails : route.Fails host disk e) : route.file? host disk = .error e := by
  cases fails with
  | long clean long => rw [Route.file?, if_neg (by simp [clean]), if_pos long]
  | barred clean short barred =>
    rw [Route.file?, if_neg (by simp [clean]), if_neg (by omega), barred]
  | chokes clean short free chokes =>
    rw [file?_free clean short free, Folder.walk_eq_error_iff.mpr ⟨rfl, chokes⟩]
    rfl

theorem Finds.file? (finds : route.Finds host disk content) :
    route.file? host disk = .ok (some content) := by
  rw [file?_free finds.clean finds.short finds.free, Folder.walk_eq_file_iff.mpr finds.shows]
  rfl

/-- **A path leads to a file, or nowhere, or it cannot be followed.** -/
theorem file?_cases (route : Route) (host : Host O) (disk : Folder T) :
    (∃ e, route.Fails host disk e) ∨ (∃ content, route.Finds host disk content) ∨
      route.file? host disk = .ok none := by
  cases clean : Path.isNowhere route.steps with
  | true => exact .inr (.inr (file?_nowhere clean))
  | false =>
    obtain short | long := Nat.lt_or_ge route.shown.utf8ByteSize 4096
    · cases free : host.barred route.shown with
      | some e => exact .inl ⟨e, .barred clean short free⟩
      | none =>
        rw [file?_free clean short free]
        cases walked : (route.start host.above disk.timeless).2.walk
            (route.start host.above disk.timeless).1 route.steps with
        | error e =>
          exact .inl ⟨_, .chokes clean short free (Folder.walk_eq_error_iff.mp walked).2⟩
        | ok entry =>
          match entry with
          | none | some (.folder _) => exact .inr (.inr rfl)
          | some (.file content _) =>
            exact .inr (.inl ⟨content, clean, short, free, Folder.walk_eq_file_iff.mp walked⟩)
    · exact .inl ⟨_, .long clean long⟩

theorem vacant_iff : route.Vacant host disk ↔ route.file? host disk = .ok none := by
  constructor
  · intro vacant
    obtain ⟨e, fails⟩ | ⟨content, finds⟩ | none := file?_cases route host disk
    · exact absurd fails (vacant.follows e)
    · exact absurd finds (vacant.nothing content)
    · exact none
  · intro none
    refine ⟨fun e fails => ?_, fun content finds => ?_⟩
    · rw [fails.file?] at none
      cases none
    · rw [finds.file?] at none
      cases none

/-- How a name is followed. -/
theorem of_name {name : List Char} (ordinary : Path.IsOrdinary name) :
    Route.of (String.ofList name) = ⟨"", [String.ofList name]⟩ := by
  have steps : (Path.segments name).filter Path.isStep = [name] := by
    have leads := ordinary.isStep
    rw [Path.segments, List.splitOn_eq_singleton ordinary.slashless]
    simp [leads]
  rw [Route.of, Path.steps, String.toList_ofList, Path.root_slashless ordinary.slashless, steps]
  rfl

/-- A name that no file system keeps cannot be looked for. -/
theorem fails_of_name {name : List Char} (ordinary : Path.IsOrdinary name) (clean : '\x00' ∉ name)
    (long : Folder.isTooLong (String.ofList name) = true)
    (free : host.barred (Route.of (String.ofList name)).shown = none) :
    (Route.of (String.ofList name)).Fails host disk .unreadablePath := by
  have somewhere : Path.isNowhere (Route.of (String.ofList name)).steps = false := by
    rw [of_name ordinary]
    simpa [Path.isNowhere] using clean
  obtain short | endless := Nat.lt_or_ge (Route.of (String.ofList name)).shown.utf8ByteSize 4096
  · refine .chokes somewhere short free ⟨[], String.ofList name, [], _, _, ?_, .rest, ?_, long⟩
    · rw [of_name ordinary]
      rfl
    · exact fun back => ordinary.forward (String.ofList_injective back)
  · exact .long somewhere endless

end Route

/-! ## The first folder that decides -/

/-- The path of a file below a folder. A folder without a name is the working folder. -/
def routeOf (folder name : String) : Route :=
  if folder.isEmpty then .of name else (Route.of folder).join (.of name)

/-- The first of some folders, as all before it have no file of the name. -/
def First (host : Host O) (disk : Folder T) (name : String) (folders : List String)
    (folder : String) : Prop :=
  ∃ before after, folders = before ++ folder :: after ∧
    ∀ f ∈ before, (routeOf f name).Vacant host disk

namespace Roots

variable {name folder : String} {folders : List String} {content : Content} {e : Failure}

theorem routeTo_str (folder name : String) : routeTo (.str folder) name = .ok (routeOf folder name) := by
  rw [routeTo, routeOf]
  show (if folder.isEmpty = true then _ else _) = _
  split <;> rfl

/-- The search below one more folder. -/
theorem findIn_cons (host : Host O) (disk : Folder T) (name folder : String) (more : List Json) :
    findIn host disk name (.str folder :: more) =
      match (routeOf folder name).file? host disk with
      | .error e => .error e
      | .ok none => findIn host disk name more
      | .ok (some content) => answer host (routeOf folder name) content := by
  rw [findIn, routeTo_str]
  show ((routeOf folder name).file? host disk >>= _) = _
  cases (routeOf folder name).file? host disk with
  | error e => rfl
  | ok file => cases file <;> rfl

/-- A folder without a file of the name decides nothing. -/
theorem findIn_append {before : List String} (vacant : ∀ f ∈ before, (routeOf f name).Vacant host disk)
    (after : List Json) :
    findIn host disk name (before.map .str ++ after) = findIn host disk name after := by
  induction before with
  | nil => rfl
  | cons folder before ih =>
    rw [List.map_cons, List.cons_append, findIn_cons,
      Route.vacant_iff.mp (vacant folder List.mem_cons_self)]
    exact ih fun f mem => vacant f (List.mem_cons_of_mem _ mem)

theorem findIn_vacant (vacant : ∀ f ∈ folders, (routeOf f name).Vacant host disk) :
    findIn host disk name (folders.map .str) = .ok (.refused notFound) := by
  rw [← List.append_nil (folders.map Json.str), findIn_append vacant, findIn]

theorem findIn_fails (first : First host disk name folders folder)
    (fails : (routeOf folder name).Fails host disk e) :
    findIn host disk name (folders.map .str) = .error e := by
  obtain ⟨before, after, rfl, vacant⟩ := first
  rw [List.map_append, findIn_append vacant, List.map_cons, findIn_cons, fails.file?]

theorem findIn_finds (first : First host disk name folders folder)
    (finds : (routeOf folder name).Finds host disk content) :
    findIn host disk name (folders.map .str) = answer host (routeOf folder name) content := by
  obtain ⟨before, after, rfl, vacant⟩ := first
  rw [List.map_append, findIn_append vacant, List.map_cons, findIn_cons, finds.file?]

/-- **One folder decides, or none has a file of the name.** -/
theorem first_cases (host : Host O) (disk : Folder T) (name : String) (folders : List String) :
    (∀ f ∈ folders, (routeOf f name).Vacant host disk) ∨
      ∃ folder, First host disk name folders folder ∧
        ((∃ e, (routeOf folder name).Fails host disk e) ∨
          ∃ content, (routeOf folder name).Finds host disk content) := by
  induction folders with
  | nil => exact .inl fun _ mem => absurd mem List.not_mem_nil
  | cons folder folders ih =>
    have here : First host disk name (folder :: folders) folder :=
      ⟨[], folders, rfl, fun _ mem => absurd mem List.not_mem_nil⟩
    obtain fails | finds | none := Route.file?_cases (routeOf folder name) host disk
    · exact .inr ⟨folder, here, .inl fails⟩
    · exact .inr ⟨folder, here, .inr finds⟩
    · have vacant := Route.vacant_iff.mpr none
      obtain all | ⟨f, ⟨before, after, rfl, before'⟩, decides⟩ := ih
      · exact .inl (List.forall_mem_cons.mpr ⟨vacant, all⟩)
      · exact .inr ⟨f, ⟨folder :: before, after, rfl, List.forall_mem_cons.mpr ⟨vacant, before'⟩⟩,
          decides⟩

/-! ## Everything that is said -/

/-- Places that are all given as texts, as they are by the defaults. -/
def ofTexts (base : String) (others : List String) (web : Bool) : Roots :=
  { base := .str base, others := others.map .str, web := .bool web }

def fetching (name : String) (answer : Except Failure Reply) : List (Deed T) :=
  [.noted (.fetching name), .requested (.get name) answer]

/-- Everything that is said about an import, and what is done for it. -/
inductive Says (host : Host O) (disk : Folder T) (folders : List String) (web : Bool)
    (name : String) : List (Deed T) → Except Failure Answer → Prop
  | disabled (remote : isRemote name = true) (off : web = false) :
      Says host disk folders web name [] (.ok (.refused ("https imports are disabled: " ++ name)))
  | fetched {answer : Except Failure Reply} {text : String} (remote : isRemote name = true)
      (on : web = true) (replied : World.replied name answer = .ok text) :
      Says host disk folders web name (fetching name answer) (.ok (.found text))
  | unfetched {answer : Except Failure Reply} {e : Failure} (remote : isRemote name = true)
      (on : web = true) (fails : World.replied name answer = .error e)
      (request : e.isFault .request = true) :
      Says host disk folders web name (fetching name answer)
        (.ok (.refused ("Error fetching " ++ name ++ ": " ++ e.message.getD "")))
  /-- Something else went wrong than a request. -/
  | broken {e : Failure} (remote : isRemote name = true) (on : web = true)
      (other : e.isFault .request = false) :
      Says host disk folders web name (fetching name (.error e)) (.error e)
  | absent (near : isRemote name = false)
      (vacant : ∀ folder ∈ folders, (routeOf folder name).Vacant host disk) :
      Says host disk folders web name [] (.ok (.refused notFound))
  /-- The path below the first folder that decides cannot be followed. -/
  | lost {folder : String} {e : Failure} (near : isRemote name = false)
      (first : First host disk name folders folder)
      (fails : (routeOf folder name).Fails host disk e) :
      Says host disk folders web name [] (.error e)
  | found {folder text : String} {content : Content} (near : isRemote name = false)
      (first : First host disk name folders folder)
      (finds : (routeOf folder name).Finds host disk content)
      (reads : read host (routeOf folder name) content = .ok text) :
      Says host disk folders web name [] (.ok (.found text))
  | unread {folder : String} {content : Content} {e : Failure} (near : isRemote name = false)
      (first : First host disk name folders folder)
      (finds : (routeOf folder name).Finds host disk content)
      (fails : read host (routeOf folder name) content = .error e)
      (system : e.isSystem = true) :
      Says host disk folders web name []
        (.ok (.refused ("Error reading " ++ (routeOf folder name).shown ++ ": " ++
          e.message.getD "")))
  /-- A file that is there could not be read, and the system is not to blame. -/
  | garbled {folder : String} {content : Content} {e : Failure} (near : isRemote name = false)
      (first : First host disk name folders folder)
      (finds : (routeOf folder name).Finds host disk content)
      (fails : read host (routeOf folder name) content = .error e)
      (other : e.isSystem = false) :
      Says host disk folders web name [] (.error e)

/-- The search ends without an answer: the path below the first folder that decides cannot be
followed, or its file could not be read and the system is not to blame. -/
def Stumbles (host : Host O) (disk : Folder T) (name : String) (folders : List String) : Prop :=
  ∃ folder, First host disk name folders folder ∧
    ((∃ e, (routeOf folder name).Fails host disk e) ∨
      ∃ content e, (routeOf folder name).Finds host disk content ∧
        read host (routeOf folder name) content = .error e ∧ e.isSystem = false)

theorem findIn_eq_error_iff :
    (∃ e, findIn host disk name (folders.map .str) = .error e) ↔
      Stumbles host disk name folders := by
  constructor
  · rintro ⟨e, failed⟩
    obtain vacant | ⟨folder, first, ⟨e', fails⟩ | ⟨content, finds⟩⟩ :=
      first_cases host disk name folders
    · rw [findIn_vacant vacant] at failed
      cases failed
    · exact ⟨folder, first, .inl ⟨e', fails⟩⟩
    · rw [findIn_finds first finds, answer] at failed
      split at failed
      · cases failed
      · rename_i e' fails
        split at failed
        · cases failed
        · rename_i other
          exact ⟨folder, first, .inr ⟨content, e', finds, fails, Bool.not_eq_true _ ▸ other⟩⟩
  · rintro ⟨folder, first, ⟨e, fails⟩ | ⟨content, e, finds, fails, other⟩⟩
    · exact ⟨e, findIn_fails first fails⟩
    · refine ⟨e, ?_⟩
      rw [findIn_finds first finds, answer, fails]
      exact if_neg (by simp [other])

/-- What is said about a unit that is not on the web. -/
theorem says_findIn (near : isRemote name = false) (web : Bool) :
    Says host disk folders web name [] (findIn host disk name (folders.map .str)) := by
  obtain vacant | ⟨folder, first, ⟨e, fails⟩ | ⟨content, finds⟩⟩ :=
    first_cases host disk name folders
  · rw [findIn_vacant vacant]
    exact .absent near vacant
  · rw [findIn_fails first fails]
    exact .lost near first fails
  · rw [findIn_finds first finds, answer]
    split
    · rename_i text reads
      exact .found near first finds reads
    · rename_i e fails
      split
      · rename_i system
        exact .unread near first finds fails system
      · rename_i other
        exact .garbled near first finds fails (Bool.not_eq_true _ ▸ other)

/-- What is said about a unit on the web. -/
def told (name : String) (answer : Except Failure Reply) : Except Failure Answer :=
  match World.replied name answer with
  | .ok text => .ok (.found text)
  | .error e =>
    if e.isFault .request then
      .ok (.refused ("Error fetching " ++ name ++ ": " ++ e.message.getD ""))
    else .error e

/-- All that can go wrong with a request is told, and nothing else. -/
theorem told_eq_error_iff {answer : Except Failure Reply} {name : String} {e : Failure} :
    told name answer = .error e ↔ answer = .error e ∧ e.isFault .request = false := by
  cases answer with
  | ok reply =>
    have other : told name (.ok reply) ≠ .error e := by
      unfold told
      cases fault : reply.fault? name with
      | none => simp [World.replied, bind, Except.bind, fault]
      | some e =>
        simp [World.replied, bind, Except.bind, fault, Reply.isFault_of_fault? fault]
    simp [other]
  | error e' =>
    unfold told
    simp only [World.replied, bind, Except.bind]
    cases request : e'.isFault .request with
    | true =>
      simp only [if_true, reduceCtorEq, false_iff]
      rintro ⟨same, other⟩
      rw [← Except.error.inj same, request] at other
      cases other
    | false =>
      simp only [Bool.false_eq_true, if_false, Except.error.injEq]
      exact ⟨fun same => ⟨same, same ▸ request⟩, fun same => same.1⟩

/-- What is said about a unit on the web that may be fetched. -/
theorem says_told (remote : isRemote name = true) (answer : Except Failure Reply) :
    Says host disk folders true name (fetching name answer) (told name answer) := by
  cases result : told name answer with
  | error e =>
    obtain ⟨rfl, other⟩ := told_eq_error_iff.mp result
    exact .broken remote rfl other
  | ok said =>
    rw [told] at result
    split at result
    · rename_i text replied
      cases result
      exact .fetched remote rfl replied
    · rename_i e fails
      split at result
      · rename_i request
        cases result
        exact .unfetched remote rfl fails request
      · cases result

section

variable [Duration T]

/-- A unit is fetched by one request. -/
theorem fetch_run (host : Host O) (name : String) (w : World O T) :
    ∃ w', World.DoesAll host w (fetching name ((host.request (.get name)).run w.outside).1) w' ∧
      (fetch host name).run w = (told name ((host.request (.get name)).run w.outside).1, w') := by
  have noted := World.does_note host (.fetching name) w
  obtain ⟨answer, w', does, sent⟩ :=
    World.send_run host name (.get name) ((World.note (.fetching name)).run w).2
  have asked : (host.request (.get name)).run w.outside = (answer, w'.outside) := does.asks
  have first : (World.note (.fetching name)).run w =
      (.ok (), ((World.note (.fetching name)).run w).2) := rfl
  rw [asked, fetch, Act.run_bind_ok first, Act.run_bind, Act.run_attempt, sent, told]
  refine ⟨w', .cons noted does.all, ?_⟩
  cases World.replied name answer with
  | ok text => rfl
  | error e =>
    dsimp only
    split <;> rfl

/-- **What is said about an import**, and when nothing can be said: if its file is reached by no path
that can be followed or is no text, or if something else goes wrong than a request. Nothing is
requested unless that is allowed. -/
theorem lookUp_says (host : Host O) (base : String) (others : List String) (web : Bool)
    (name : String) (w : World O T) :
    ∃ deeds result w',
      ((ofTexts base others web).lookUp host name).run w = (result, w') ∧
      World.DoesAll host w deeds w' ∧
      Says host w.disk (base :: others) web name deeds result ∧
      ((∃ e, result = .error e) ↔
        isRemote name = false ∧ Stumbles host w.disk name (base :: others) ∨
        isRemote name = true ∧ web = true ∧
          ∃ e, ((host.request (.get name)).run w.outside).1 = .error e ∧
            e.isFault .request = false) ∧
      (web = false → deeds = []) := by
  cases near : isRemote name with
  | false =>
    refine ⟨[], findIn host w.disk name ((base :: others).map .str), w, ?_, .nil w,
      says_findIn near web, ?_, fun _ => rfl⟩
    · rw [lookUp, near]
      rfl
    · rw [findIn_eq_error_iff]
      simp
  | true =>
    cases web with
    | false =>
      refine ⟨[], _, w, ?_, .nil w, .disabled near rfl, ?_, fun _ => rfl⟩
      · rw [lookUp, near]
        rfl
      · simp
    | true =>
      obtain ⟨w', does, fetched⟩ := fetch_run host name w
      refine ⟨_, _, w', ?_, does, says_told near _, ?_, nofun⟩
      · rw [lookUp, near]
        exact fetched
      · simp only [told_eq_error_iff]
        simp

end

/-- In the working folder, a path that cannot be followed ends the search. -/
theorem lookUp_fails {w : World O T} (near : isRemote name = false)
    (fails : (Route.of name).Fails host w.disk e) (others : List String) (web : Bool) :
    (((ofTexts "" others web).lookUp host name).run w).1 = .error e := by
  have first : First host w.disk name ("" :: others) "" :=
    ⟨[], others, rfl, fun _ mem => absurd mem List.not_mem_nil⟩
  rw [lookUp, near]
  exact findIn_fails first fails

def offline : Host Unit where
  compile _ _ := throw .unsupported
  request _ := throw .unsupported
  spawn _ := throw .unsupported
  poll := throw .unsupported
  wait _ := throw .unsupported
  installable := []

def holding (disk : Folder Rat) : World Unit Rat :=
  { outside := (), disk, now := 0, installed := [], swept := [], journal := [] }

/-- There is no answer for a file that is no text, nor for a name that is too long. -/
theorem lookUp_silent :
    (((ofTexts "" [] false).lookUp offline "A.sol").run
      (holding (.file "A.sol" (.bytes [0xff]) 0 .empty))).1 = .error .badText ∧
    (((ofTexts "" [] false).lookUp offline (String.ofList (List.replicate 256 'a'))).run
      (holding .empty)).1 = .error .unreadablePath := by
  refine ⟨rfl, ?_⟩
  have near : isRemote (String.ofList (List.replicate 256 'a')) = false := by
    rw [isRemote, @String.toList_ofList (List.replicate 256 'a')]
    decide +kernel
  have ordinary : Path.IsOrdinary (List.replicate 256 'a') :=
    ⟨⟨nofun, by decide +kernel⟩, nofun, nofun⟩
  have fails : (Route.of (String.ofList (List.replicate 256 'a'))).Fails offline
      (holding .empty).disk .unreadablePath :=
    Route.fails_of_name ordinary (by decide +kernel) (by decide +kernel) rfl
  exact lookUp_fails near fails [] false

end Roots

end Import

end SolidityRepl
