import SolidityRepl.Abi.Revert
import SolidityRepl.Proofs.Abi.Decoding

/-!
# Reasons of reverts

A call that reverts may leave a payload behind: a text, or the number of a panic.
-/

namespace SolidityRepl.Abi

/-! ## Payloads -/

/-- What a revert leaves behind that gives a reason. -/
inductive Payload where
  | text (s : String)
  | panic (n : Int)

namespace Payload

def selector : Payload → Bytes
  | text _ => errorSelector
  | panic _ => panicSelector

def leaf : Payload → Leaf
  | text _ => .string
  | panic _ => .uint 256

def value : Payload → Value
  | text s => .text s
  | panic n => .int n

def reason : Payload → String
  | text s => s
  | panic n => "Panic(" ++ Text.hexShown n ++ ")"

def bytes (p : Payload) : Bytes := p.selector ++ encodeAll [.leaf p.leaf] [p.value]

/-- Bytes that hold it, as contracts write it or not. -/
def IsIn (data : Bytes) (p : Payload) : Prop :=
  data.take 4 = p.selector ∧ decodeAll [p.leaf.type] (data.drop 4) = .ok [p.value]

end Payload

/-! ## Reasons -/

variable {data : Bytes}

theorem revertReason_text (selected : data.take 4 = errorSelector) :
    revertReason data = unlessUndecodable (errorText (data.drop 4)) := by
  rw [revertReason, if_pos (beq_iff_eq.mpr selected)]

theorem revertReason_panic (selected : data.take 4 = panicSelector) :
    revertReason data = unlessUndecodable (panicText (data.drop 4)) := by
  have other : ¬ (panicSelector == errorSelector) = true := by decide
  rw [revertReason, selected, if_neg other, if_pos (beq_self_eq_true _)]

theorem revertReason_other (noText : data.take 4 ≠ errorSelector)
    (noPanic : data.take 4 ≠ panicSelector) : revertReason data = .ok none := by
  rw [revertReason, if_neg (fun same => noText (beq_iff_eq.mp same)),
    if_neg (fun same => noPanic (beq_iff_eq.mp same))]

theorem unlessUndecodable_eq_some {reason : Except Failure (Option String)} {text : String} :
    unlessUndecodable reason = .ok (some text) ↔ reason = .ok (some text) := by
  cases reason with
  | ok reason => rfl
  | error e =>
    rw [unlessUndecodable]
    cases e.isUndecodable <;> simp

theorem unlessUndecodable_error {reason : Except Failure (Option String)} {e : Failure}
    (fails : unlessUndecodable reason = .error e) :
    reason = .error e ∧ e.isUndecodable = false := by
  cases reason with
  | ok reason => cases fails
  | error e' =>
    rw [unlessUndecodable] at fails
    cases undecodable : e'.isUndecodable with
    | true =>
      rw [undecodable] at fails
      cases fails
    | false =>
      rw [undecodable] at fails
      cases fails
      exact ⟨rfl, undecodable⟩

theorem errorText_eq_some {text : String} :
    errorText data = .ok (some text) ↔ decodeAll [.string] data = .ok [.text text] := by
  rw [errorText]
  cases decodeAll [.string] data with
  | error e => exact ⟨(nomatch ·), (nomatch ·)⟩
  | ok values =>
    simp only [bind, Except.bind]
    split
    · constructor
      · intro given
        cases given
        rfl
      · intro given
        cases given
        rfl
    · next noText =>
      constructor
      · intro given
        cases given
      · intro given
        cases given
        exact absurd rfl (noText text)

theorem panicText_eq_some {text : String} :
    panicText data = .ok (some text) ↔
      ∃ n, decodeAll [.uint 256] data = .ok [.int n] ∧ (Payload.panic n).reason = text := by
  rw [panicText]
  cases decodeAll [.uint 256] data with
  | error e => exact ⟨(nomatch ·), fun ⟨_, given, _⟩ => nomatch given⟩
  | ok values =>
    simp only [bind, Except.bind]
    split
    · next n =>
      constructor
      · intro given
        cases given
        exact ⟨n, rfl, rfl⟩
      · rintro ⟨n', given, shown⟩
        cases given
        cases shown
        rfl
    · next noNumber =>
      constructor
      · intro given
        cases given
      · rintro ⟨n, given, _⟩
        cases given
        exact absurd rfl (noNumber n)

/-- **The reason of some bytes is that of the payload in them.** -/
theorem revertReason_eq_some {text : String} :
    revertReason data = .ok (some text) ↔ ∃ p : Payload, p.IsIn data ∧ p.reason = text := by
  have apart : panicSelector ≠ errorSelector := by decide
  by_cases error : data.take 4 = errorSelector
  · rw [revertReason_text error, unlessUndecodable_eq_some, errorText_eq_some]
    constructor
    · intro decoded
      exact ⟨.text text, ⟨error, decoded⟩, rfl⟩
    · rintro ⟨p, held, shown⟩
      cases p with
      | text s =>
        cases shown
        exact held.2
      | panic n => exact absurd (held.1.symm.trans error) apart
  · by_cases panic : data.take 4 = panicSelector
    · rw [revertReason_panic panic, unlessUndecodable_eq_some, panicText_eq_some]
      constructor
      · rintro ⟨n, decoded, shown⟩
        exact ⟨.panic n, ⟨panic, decoded⟩, shown⟩
      · rintro ⟨p, held, shown⟩
        cases p with
        | text s => exact absurd held.1 error
        | panic n => exact ⟨n, held.2, shown⟩
    · rw [revertReason_other error panic]
      constructor
      · intro given
        cases given
      · rintro ⟨p, held, _⟩
        cases p with
        | text s => exact absurd held.1 error
        | panic n => exact absurd held.1 panic

theorem errorText_error {e : Failure} :
    errorText data = .error e ↔ decodeAll [.string] data = .error e := by
  rw [errorText]
  cases decodeAll [.string] data with
  | error e' => exact ⟨fun given => by cases given; rfl, fun given => by cases given; rfl⟩
  | ok values =>
    simp only [bind, Except.bind]
    split <;> exact ⟨(nomatch ·), (nomatch ·)⟩

theorem panicText_yields (data : Bytes) :
    Yields (Malformed false) (fun _ => True) (panicText data) := by
  refine Yields.bind (decodeAll_yields [.uint 256] data) ?_
  intro values _
  split <;> trivial

/-- **Bytes have a reason or none, unless a text in them cannot be held or is none.** -/
theorem revertReason_error {e : Failure} :
    revertReason data = .error e ↔ data.take 4 = errorSelector ∧
      decodeAll [.string] (data.drop 4) = .error e ∧ (e = .tooLarge ∨ e = .badText) := by
  by_cases error : data.take 4 = errorSelector
  · rw [revertReason_text error]
    constructor
    · intro fails
      obtain ⟨unread, decodable⟩ := unlessUndecodable_error fails
      have yields := decodeAll_yields [.string] (data.drop 4)
      rw [errorText_error.mp unread] at yields
      rcases yields with undecodable | ⟨_, kinds⟩
      · cases decodable.symm.trans undecodable
      · exact ⟨error, errorText_error.mp unread, kinds⟩
    · rintro ⟨_, unread, kinds⟩
      rw [errorText_error.mpr unread]
      rcases kinds with rfl | rfl <;> rfl
  · constructor
    · intro fails
      by_cases panic : data.take 4 = panicSelector
      · rw [revertReason_panic panic] at fails
        obtain ⟨unread, decodable⟩ := unlessUndecodable_error fails
        have yields := panicText_yields (data.drop 4)
        rw [unread] at yields
        rcases yields with undecodable | ⟨counted, _⟩
        · cases decodable.symm.trans undecodable
        · cases counted
      · rw [revertReason_other error panic] at fails
        cases fails
    · intro given
      exact absurd given.1 error

end SolidityRepl.Abi
