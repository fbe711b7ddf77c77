import TelemetryBridge.Number.Binary64

/-!
# Retry delays

After the n-th failure in a row the bridge waits `initial · 2 ^ (n - 1)` milliseconds, scaled by a
random factor between 3/4 and 5/4, rounded to the nearest integer and never more than the cap. The
formula is given for any rounding of its intermediate results: kept exactly, or to binary64. How
long a wait really lasts that is asked for with a delay is up to a timer.
-/

namespace TelemetryBridge

namespace Backoff

/-- The delay before the next attempt: how often a delay was asked for before, and how many attempts
in a row have failed. -/
abbrev Policy := Nat → Int → Number

def immediate : Policy := fun _ _ => 0

/-- How long a wait lasts that is asked for with a delay, both in milliseconds. -/
abbrev Timer := Number → Number

/-- Every wait lasts as long as was asked for. -/
def punctual : Timer := id

/-- The longest delay in milliseconds that the timer of the system keeps. -/
def longestTimer : Nat := 2147483647

/-- The timer of the system counts whole milliseconds, so it drops a fraction. In the place of a
delay that is below one millisecond, above the longest or infinite it waits for one millisecond. -/
def systemTimer : Timer
  | .finite d => if 1 ≤ d ∧ d ≤ longestTimer then .finite d.floor else 1
  | .infinite _ => 1

/-- How intermediate results are kept. -/
structure Rounding where
  powerOfTwo : Nat → Number
  round : Rat → Number

def exact : Rounding := ⟨fun n => .finite (2 ^ n), .finite⟩

def binary64 : Rounding :=
  ⟨fun n => if n < 1024 then .finite (2 ^ n) else .infinite false, Number.binary64⟩

def nearest (x : Rat) : Rat := ((x + 1 / 2).floor : Int)

/-- The product of two numbers of which the first is positive and finite and the second is not
negative. -/
def product (arith : Rounding) (x : Rat) : Number → Number
  | .finite y => arith.round (x * y)
  | .infinite negative => .infinite negative

/-- The capped delay after `failures` failures in a row, for a random number of `[0, 1]`. -/
def delay (arith : Rounding) (initial cap random : Rat) (failures : Nat) : Number :=
  let base := product arith initial (arith.powerOfTwo (failures - 1))
  match arith.round (random / 2) with
  | .infinite _ => .finite cap
  | .finite half =>
    match arith.round (3 / 4 + half), base with
    | .finite jitter, .finite base =>
      match arith.round (base * jitter) with
      | .finite jittered => Number.min (.finite (nearest jittered)) (.finite cap)
      | .infinite _ => .finite cap
    | _, _ => .finite cap

/-- Whether a random number is drawn: only after a failure, and with a positive initial delay. -/
def draws (initial : Rat) (failures : Int) : Bool := decide (0 < initial) && decide (0 < failures)

/-- Exponential delays with jitter. The k-th draw is `random k`; without an initial delay every
retry is immediate. -/
def exponential (arith : Rounding) (initial cap : Rat) (random : Nat → Rat) : Policy :=
  fun draw failures =>
    if draws initial failures then delay arith initial cap (random draw) failures.toNat else 0

/-- The delays of a list of failure counts, and how many random numbers they drew. -/
def delays (policy : Policy) (initial : Rat) : Nat → List Int → List Number × Nat
  | drawn, [] => ([], drawn)
  | drawn, n :: ns =>
    let (rest, total) := delays policy initial (if draws initial n then drawn + 1 else drawn) ns
    (policy drawn n :: rest, total)

end Backoff

end TelemetryBridge
