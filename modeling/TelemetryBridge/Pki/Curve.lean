import TelemetryBridge.Text.Utf8

/-!
# The curve P-256

Points of y² = x³ - 3x + b over a prime field, and how they are written as bytes.
-/

namespace TelemetryBridge.Curve

/-- The size of the field. -/
def modulus : Nat := 0xFFFFFFFF00000001000000000000000000000000FFFFFFFFFFFFFFFFFFFFFFFF

/-- The constant term of the equation. -/
def constant : Nat := 0x5AC635D8AA3A93E7B3EBBD55769886BC651D06B0CC53B0F63BCE3C3E27D2604B

/-- How many bytes a coordinate has. -/
def width : Nat := 32

def power (x e : Nat) : Nat :=
  if e = 0 then 1
  else
    let half := power (x * x % modulus) (e / 2)
    if e % 2 = 1 then x * half % modulus else half
termination_by e

/-- The inverse of a number that is not zero in the field. -/
def inverse (x : Nat) : Nat := power x (modulus - 2)

/-- The right side of the equation. -/
def cubic (x : Nat) : Nat := (x * x * x + (modulus - 3) * x + constant) % modulus

/-- A point, by coordinates below the size of the field. -/
inductive Point where
  | infinity
  | affine (x y : Nat)
deriving DecidableEq

namespace Point

def isOnCurve : Point → Bool
  | infinity => true
  | affine x y => x < modulus && y < modulus && y * y % modulus == cubic x

/-- The point from which public keys are made. -/
def base : Point :=
  affine 0x6B17D1F2E12C4247F8BCE6E563A440F277037D812DEB33A0F4A13945D898C296
    0x4FE342E2FE1A7F9B8EE7EB4A7C0F9E162BCE33576B315ECECBB6406837BF51F5

/-- The third point of the line through two points, mirrored. -/
def add : Point → Point → Point
  | infinity, q => q
  | p, infinity => p
  | affine x y, affine x' y' =>
    if x = x' ∧ (y + y') % modulus = 0 then infinity
    else
      let slope :=
        if x = x' then (3 * x * x + (modulus - 3)) * inverse (2 * y % modulus) % modulus
        else (y' + (modulus - y)) * inverse ((x' + (modulus - x)) % modulus) % modulus
      let third := (slope * slope + (modulus - x) + (modulus - x')) % modulus
      affine third ((slope * (x + (modulus - third)) + (modulus - y)) % modulus)

def multiple (n : Nat) (p : Point) : Point :=
  if n = 0 then infinity
  else
    let rest := multiple (n / 2) (p.add p)
    if n % 2 = 1 then p.add rest else rest
termination_by n

/-- The number that bytes are, the first one counting most. -/
def number (bytes : Bytes) : Nat := bytes.foldl (fun n b => 256 * n + b.toNat) 0

/-- The point with the given first coordinate whose second one is odd or even. -/
def ofParity? (x : Nat) (odd : Bool) : Option Point :=
  let y := power (cubic x) ((modulus + 1) / 4)
  if x < modulus ∧ y * y % modulus = cubic x then
    if decide (y % 2 = 1) = odd then some (affine x y)
    else if y = 0 then none
    else some (affine x (modulus - y))
  else none

/-- The point that bytes stand for. The first byte says whether both coordinates follow, and whether
it gives away the parity of the second one. -/
def ofBytes? : Bytes → Option Point
  | [] => none
  | form :: bytes =>
    let x := number (bytes.take width)
    let y := number (bytes.drop width)
    let odd := form.toNat % 2 == 1
    let both := (some (affine x y)).filter fun p => p.isOnCurve && bytes.length == 2 * width
    match form.toNat with
    | 0 => if bytes = [] then some infinity else none
    | 2 | 3 => if bytes.length = width then ofParity? x odd else none
    | 4 => both
    | 6 | 7 => if (y % 2 == 1) = odd then both else none
    | _ => none

end Point

end TelemetryBridge.Curve
