import Mathlib.Algebra.Group.Nat.Defs

/-! # The limiter of a controller's input rate

A token bucket that counts in billionths of a token, so that a refill of `r` tokens a
second is `r` units a nanosecond.  Times are nanoseconds.
-/
namespace Pockiva
namespace Network

/-- `TOKEN_SCALE`. -/
def tokenScale : Nat := 1000000000

/-- The greatest `u128`. -/
def maxU128 : Nat := 2 ^ 128 - 1

def saturatingAdd (a b : Nat) : Nat := min (a + b) maxU128

def saturatingMul (a b : Nat) : Nat := min (a * b) maxU128

structure InputRateLimiter where
  refillPerSecond : Nat
  capacity : Nat
  available : Nat
  lastRefill : Nat
deriving DecidableEq, Repr

namespace InputRateLimiter

def new (refillPerSecond capacity start : Nat) : InputRateLimiter where
  refillPerSecond := refillPerSecond
  capacity := saturatingMul capacity tokenScale
  available := saturatingMul capacity tokenScale
  lastRefill := start

/-- The limiter once the tokens up to now are in; a time before the last refill brings none. -/
def refill (l : InputRateLimiter) (now : Nat) : InputRateLimiter :=
  if l.lastRefill ≤ now then
    { l with
      available := min (saturatingAdd l.available
        (saturatingMul (now - l.lastRefill) l.refillPerSecond)) l.capacity
      lastRefill := now }
  else l

def allow (l : InputRateLimiter) (now : Nat) : Bool × InputRateLimiter :=
  let l := l.refill now
  if l.available < tokenScale then (false, l)
  else (true, { l with available := l.available - tokenScale })

end InputRateLimiter

end Network

end Pockiva
