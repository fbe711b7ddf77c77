import TelemetryBridge.Number.Basic

/-!
# Rounding to binary64

Numbers are kept to 53 significant bits, with exponents from -1074 up; halves go to the even
neighbour, and what reaches `2 ^ 1024` is infinite.
-/

namespace TelemetryBridge.Number

/-- A quotient rounded to the nearest integer, a half to the even one. -/
def roundQuotient (n d : Nat) : Nat :=
  let q := n / d
  let twice := 2 * (n % d)
  if twice < d then q
  else if d < twice then q + 1
  else if q % 2 = 0 then q else q + 1

/-- The exponent of the last kept bit of `n / d`. -/
def lastBit (n d : Nat) : Int :=
  let guess : Int := (n.log2 : Int) - (d.log2 : Int)
  let log :=
    if d * Nat.pow 2 guess.toNat ≤ n * Nat.pow 2 (-guess).toNat then guess else guess - 1
  max (log - 52) (-1074)

/-- The nearest multiple of `2 ^ e` to `n / d`, in units of `2 ^ e`. -/
def significand (n d : Nat) (e : Int) : Nat :=
  roundQuotient (n * Nat.pow 2 (-e).toNat) (d * Nat.pow 2 e.toNat)

/-- A rational number as a binary64 number. -/
def binary64 (x : Rat) : Number :=
  if x = 0 then .finite 0
  else
    let e := lastBit x.num.natAbs x.den
    let m := significand x.num.natAbs x.den e
    if Nat.pow 2 1024 ≤ m * Nat.pow 2 e.toNat then .infinite (decide (x < 0))
    else
      let magnitude := mkRat (m * Nat.pow 2 e.toNat) (Nat.pow 2 (-e).toNat)
      .finite (if x < 0 then -magnitude else magnitude)

end TelemetryBridge.Number
