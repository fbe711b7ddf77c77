/-!
# Numbers

The numbers of configuration files and command lines: rational numbers and two infinities. The sign
of zero is not kept, as no output shows it. What is not a number is left out: no text is read as it.
-/

namespace TelemetryBridge

/-- A rational number or an infinity. -/
inductive Number where
  | finite (value : Rat)
  | infinite (negative : Bool)
deriving DecidableEq

namespace Number

instance : Inhabited Number := ⟨.finite 0⟩

def ofNat (n : Nat) : Number := .finite n

instance (n : Nat) : OfNat Number n := ⟨ofNat n⟩

/-- Whether the number is finite without a fractional part. -/
def isInteger : Number → Bool
  | finite x => x.den == 1
  | infinite _ => false

/-- Order of numbers; a negative infinity is below, a positive one above all others. -/
def le : Number → Number → Bool
  | finite x, finite y => decide (x ≤ y)
  | infinite true, _ => true
  | _, infinite false => true
  | infinite false, infinite true => false
  | infinite false, finite _ => false
  | finite _, infinite true => false

def lt (x y : Number) : Bool := !le y x

def min (x y : Number) : Number := if le x y then x else y

/-- The time at which something is over that begins at the given time and takes as long. -/
def after (begun : Rat) : Number → Number
  | finite d => finite (begun + d)
  | infinite negative => infinite negative

end Number

end TelemetryBridge
