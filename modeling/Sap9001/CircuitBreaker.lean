import Mathlib.Tactic.Common

/-! The failure counter that guards re-initialisation attempts (`infra/circuit_breaker.h`).
The monotonic clock is an argument of the calls that read it, in milliseconds. -/
namespace Sap9001

inductive CircuitState
  | closed | opened | halfOpen
  deriving DecidableEq, Repr

/-- Overflow of the `int` counter is not modelled. -/
structure CircuitBreaker where
  threshold : Int
  cooldownMs : Int
  state : CircuitState
  failureCount : Int
  lastFailureTime : UInt64
  deriving DecidableEq, Repr

namespace CircuitBreaker

def new (failureThreshold : Int := 5) (cooldownMs : Int := 30000) : CircuitBreaker where
  threshold := failureThreshold
  cooldownMs := cooldownMs
  state := .closed
  failureCount := 0
  lastFailureTime := 0

/-- The elapsed time and the cooldown are compared as unsigned 64-bit numbers. -/
def allowRequest (b : CircuitBreaker) (now : UInt64) : Bool × CircuitBreaker :=
  match b.state with
  | .closed => (true,b)
  | .opened =>
    if now - b.lastFailureTime > UInt64.ofInt b.cooldownMs then
      (true,{ b with state := .halfOpen })
    else (false,b)
  | .halfOpen => (true,b)

def recordSuccess (b : CircuitBreaker) : CircuitBreaker :=
  { b with failureCount := 0, state := .closed }

def recordFailure (b : CircuitBreaker) (now : UInt64) : CircuitBreaker :=
  let b' := { b with failureCount := b.failureCount + 1, lastFailureTime := now }
  if b'.failureCount ≥ b'.threshold then { b' with state := .opened } else b'

def reset (b : CircuitBreaker) : CircuitBreaker :=
  { b with state := .closed, failureCount := 0, lastFailureTime := 0 }

end CircuitBreaker
end Sap9001
