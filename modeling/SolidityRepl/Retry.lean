import SolidityRepl.Number
import SolidityRepl.World.Basic

/-!
# Trying again

Something that may fail is tried again after a pause, as long as its failure is one that may pass
and it has not been tried too often. The pauses grow by a factor.
-/

namespace SolidityRepl

/-- How often something is tried, and the pause in seconds after the try of a number, counted from
zero, if there is a number for it. -/
structure Patience (T : Type) where
  tries : Nat
  pause : Nat → Except Failure T

namespace Patience

/-- Pauses that grow by a factor, the first one in milliseconds. -/
def growing {T : Type} [Duration T] (tries : Nat) (backoff factor : T) : Patience T where
  tries
  pause n := .ok (backoff * Duration.power factor n / Duration.ofInt 1000)

/-- Some number of tries with the usual pauses. -/
def usual {T : Type} [Duration T] (tries : Nat) : Patience T :=
  growing tries (Duration.ofInt 400) (Duration.ofDecimal 11 (-1))

/-- A number of tries: a whole number, or none if it is below zero. -/
def triesOf : Json → Except Failure Nat
  | .bool b => .ok (if b then 1 else 0)
  | .int n => .ok n.toNat
  | _ => .error .wrongType

/-- Growing pauses by values. The number of tries counts at once, the other two at a pause. -/
def ofJson (tries backoff factor : Json) : Except Failure (Patience Float) := do
  return {
    tries := ← triesOf tries
    pause := fun n => do
      let growth ← (← Number.ofJson factor).power n
      (← (← Number.ofJson backoff).times growth).thousandth }

end Patience

/-- Something is tried once more, as often as is left. -/
def retryFrom {W α : Type} (mayPass : Failure → Bool) (pause : Nat → Act W Unit)
    (attempt : Act W α) : Nat → Nat → Act W (Option α)
  | 0, _ => pure none
  | left + 1, n => do
    match ← Act.attempt attempt with
    | .ok a => return some a
    | .error e =>
      if mayPass e && left != 0 then
        pause n
        retryFrom mayPass pause attempt left (n + 1)
      else throw e

/-- Something is tried until it succeeds, fails for good, or has been tried too often. -/
def retry {O T α : Type} [Duration T] (mayPass : Failure → Bool) (patience : Patience T)
    (attempt : Act (World O T) α) : Act (World O T) (Option α) :=
  let pause (n : Nat) := do World.sleep (← Act.ofExcept (patience.pause n))
  retryFrom mayPass pause attempt patience.tries 0

end SolidityRepl
