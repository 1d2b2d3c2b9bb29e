import SolidityRepl.Proofs.Compiler.Key

/-!
# Outputs from a store

What a compiler says about an input is the same with a store as without one, as long as every file
of the store holds the output for its key; and that stays so. The compiler is run if there is no
file for the input, and a run that fails leaves no file.
-/

namespace SolidityRepl

open Folder

namespace Compiler

variable {O T : Type} [Duration T]

/-! ## What is said about an input -/

/-- The result of what was said about an input. -/
def verdict (names : List String) : Except Failure Json → Except Failure CompileResult
  | .ok output => CompileResult.ofOutput output names
  | .error (.compilerBroke (remark :: remarks)) =>
    (CompileResult.remarks (.arr (remark :: remarks))).map .failed
  | .error e => .error e

section

variable {c : Compiler} {host : Host O} {lookUp : Option (String → Act (World O T) Import.Answer)}
  {sources gathered : Keyed Json} {machine : Json} {w t u : World O T}

theorem compile_run {said : Except Failure Json}
    (found : (Import.gather lookUp sources).run w = (.ok gathered, t))
    (answered : (c.answer host (inputOf gathered machine)).run t = (said, u)) :
    (c.compile host lookUp sources machine).run w = (verdict (Keyed.keys sources) said, u) := by
  have tried : (Act.attempt (c.answer host (inputOf gathered machine))).run t = (.ok said, u) := by
    rw [Act.run_attempt, answered]
  rw [compile, Act.run_bind_ok found]
  refine (Act.run_bind_ok tried).trans ?_
  cases said with
  | ok output => rfl
  | error e =>
    cases e with
    | compilerBroke remarks =>
      cases remarks with
      | nil => rfl
      | cons remark remarks =>
        rw [verdict]
        cases parsed : CompileResult.remarks (.arr (remark :: remarks)) with
        | ok result => exact Act.run_bind_ok (by rw [Act.run_ofExcept, parsed])
        | error e => exact Act.run_bind_error (by rw [Act.run_ofExcept, parsed])
    | _ => rfl

theorem compile_run_error {e : Failure}
    (failed : (Import.gather lookUp sources).run w = (.error e, t)) :
    (c.compile host lookUp sources machine).run w = (.error e, t) := by
  rw [compile, Act.run_bind_error failed]

end

def noted (v : Version) (input : Json) (w : World O T) : World O T :=
  { w with journal := w.journal ++ [.compiled v input] }

/-- Compilers whose output depends on how their version is written and on the input up to the order
of fields, and the versions and inputs that they are used for, no two of which collide. -/
structure Settled (host : Host O) (Used : Version → Json → Prop)
    (output : Version → Json → Except Failure Json) : Prop where
  answers : ∀ v i, Used v i → ∀ o, (host.compile v i).run o = (output v i, o)
  steady : ∀ v w i j, Used v i → Used w j → v.shown = w.shown → i.sorted.Alike j.sorted →
    output v i = output w j
  read : ∀ v i, Used v i → v.IsRead
  input : ∀ v i, Used v i → ∃ sources machine, i = inputOf sources machine
  apart : Apart Used

/-- The files of a store hold the outputs for their keys. -/
def Right (store : Store) (Used : Version → Json → Prop)
    (output : Version → Json → Except Failure Json) (name : String) (content : Content) : Prop :=
  ∀ v i, Used v i → name = store.fileName (key v i) →
    ∃ value, content = .value value ∧ output v i = .ok value

section

variable {host : Host O} {Used : Version → Json → Prop}
  {output : Version → Json → Except Failure Json} {folder : String} {store : Store}
  {v : Version} {input : Json} {w : World O T}

/-- **Inputs with the same file have the same output.** -/
theorem Settled.output_eq (settled : Settled host Used output) (salted : store.salt = salt)
    {v' : Version} {input' : Json} (used : Used v input) (used' : Used v' input')
    (same : store.fileName (key v input) = store.fileName (key v' input')) :
    output v input = output v' input' := by
  have hashes := hash_of_fileName same
  rw [salted] at hashes
  have bytes := settled.apart v v' input input' used used' hashes
  have keys : key v input = key v' input' := by
    have texts := congrArg Text.decode? bytes
    rw [preimage, preimage, Text.decode?_encode, Text.decode?_encode] at texts
    exact (String.append_right_inj _).mp (Option.some.inj texts)
  obtain ⟨sources, machine, rfl⟩ := settled.input v input used
  obtain ⟨sources', machine', rfl⟩ := settled.input v' input' used'
  obtain ⟨versions, inputs⟩ := key_inj (settled.read v _ used) (settled.read v' _ used') keys
  exact settled.steady v v' _ _ used used' versions inputs

theorem Settled.right (settled : Settled host Used output) (salted : store.salt = salt)
    (used : Used v input) {value : Json} (said : output v input = .ok value) :
    Right store Used output (store.fileName (key v input)) (.value value) :=
  fun _ _ used' same => ⟨value, rfl, (settled.output_eq salted used used' same).symm.trans said⟩

theorem ofFolder_salt (opened : Store.ofFolder folder salt = .ok store) : store.salt = salt := by
  rw [Store.ofFolder] at opened
  cases steps : Store.stepsTo folder with
  | error e =>
    rw [steps] at opened
    cases opened
  | ok steps' =>
    rw [steps] at opened
    cases opened
    rfl

theorem isBelow_of_salt (salted : store.salt = salt) : store.IsBelow := by
  rw [Store.IsBelow, salted]
  decide

/-! ## One answer -/

omit [Duration T] in
theorem run_run (settled : Settled host Used output) (used : Used v input) (kept : Json)
    (w : World O T) :
    (Compiler.run { version := v, store := kept } host input).run w =
      (output v input, noted v input w) := by
  have asked : (World.ask (host.compile v input)).run (noted v input w) =
      (output v input, noted v input w) := by
    rw [World.ask, Act.run_zoom, settled.answers v input used]
  rw [Compiler.run]
  exact (Act.run_bind_ok rfl).trans asked

theorem answer_alone (settled : Settled host Used output) (used : Used v input)
    (w : World O T) :
    (Compiler.answer { version := v, store := .null } host input).run w =
      (output v input, noted v input w) := by
  rw [answer]
  exact run_run settled used .null w

/-- What an answer from a store makes of a world. -/
structure Answered (store : Store) (Used : Version → Json → Prop)
    (output : Version → Json → Except Failure Json) (v : Version) (input : Json)
    (w u : World O T) : Prop where
  beside : store.Beside w u
  adds : ∀ path c, u.disk.Holds path c →
    path = store.spot ++ [store.fileName (key v input)] ∨ w.disk.Holds path c
  keeps : store.Keeps (Right store Used output) u.disk
  journal : u.journal = w.journal ++
    if (store.contentOf (key v input) (store.looked w)).isNone then [.compiled v input] else []
  clean : ∀ e, output v input = .error e →
    u.disk = (store.looked w).disk ∧ store.contentOf (key v input) u = none

/-- **What is said with a store is what is said without one.** -/
theorem answer_stored (settled : Settled host Used output)
    (opened : Store.ofFolder folder salt = .ok store) (used : Used v input)
    (writable : store.IsWritable (key v input) w)
    (keeps : store.Keeps (Right store Used output) w.disk) :
    ∃ u, (Compiler.answer { version := v, store := .str folder } host input).run w =
        (output v input, u) ∧ Answered store Used output v input w u := by
  have salted := ofFolder_salt opened
  have below := isBelow_of_salt salted
  obtain ⟨tended, fewer⟩ := store.looked_tended w
  have keeps' := keeps.sparser fewer
  have there : (Act.ofExcept (Store.ofFolder folder salt) : Act (World O T) Store).run w =
      (.ok store, w) := by
    rw [Act.run_ofExcept, opened]
  have ran := Store.lookUp_run writable
    (Compiler.run { version := v, store := .str folder } host input)
  have answered : (Compiler.answer { version := v, store := .str folder } host input).run w = _ :=
    (Act.run_bind_ok there).trans ran
  rw [answered]
  cases found : store.contentOf (key v input) (store.looked w) with
  | some content =>
    obtain ⟨value, rfl, said⟩ := keeps'.contentOf found v input used rfl
    have filed := Store.filed_tended below (key v input) (.value value) (store.looked w)
    refine ⟨_, by rw [said], ?_, ?_, ?_, ?_, ?_⟩
    · exact tended.toBeside.trans filed.toBeside
    · exact fun path c held => (Store.holds_filed held).imp And.left (fewer path c)
    · exact keeps'.filed (settled.right salted used said)
    · rw [filed.journal, tended.journal, found]
      exact (List.append_nil _).symm
    · intro e failed
      rw [said] at failed
      cases failed
  | none =>
    have ran := run_run settled used (.str folder) (store.looked w)
    cases said : output v input with
    | error e =>
      rw [said] at ran
      refine ⟨_, Act.run_bind_error ran, ?_, ?_, ?_, ?_, ?_⟩
      · exact tended.toBeside.trans ⟨rfl, rfl, rfl, fun _ _ => rfl⟩
      · exact fun path c held => .inr (fewer path c held)
      · exact keeps'
      · rw [noted, tended.journal, found]
        rfl
      · exact fun _ _ => ⟨rfl, found⟩
    | ok value =>
      rw [said] at ran
      have kept := store.keep_journal (key v input) (.value value) (store.looked w)
        ((store.looked w).journal ++ [.compiled v input])
      rw [writable.kept] at kept
      have filed := Store.filed_tended below (key v input) (.value value) (store.looked w)
      refine ⟨_, (Act.run_bind_ok ran).trans (Act.run_bind_ok kept), ?_, ?_, ?_, ?_, ?_⟩
      · have beside := tended.toBeside.trans filed.toBeside
        exact ⟨beside.outside, beside.now, beside.installed, beside.files⟩
      · exact fun path c held => (Store.holds_filed held).imp And.left (fewer path c)
      · exact keeps'.filed (settled.right salted used said)
      · rw [tended.journal, found]
        rfl
      · intro e failed
        rw [said] at failed
        cases failed

end

end Compiler

end SolidityRepl
