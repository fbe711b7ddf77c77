import TelemetryBridge.Number.Binary64

/-!
# Decimal numbers

Decimal digits with an exponent read as the nearest binary64 number. A number is written with the
fewest digits that read back as it, the nearest of those.
-/

namespace TelemetryBridge.Number

def ofDigits (cs : List Char) : Nat :=
  cs.foldl (fun n c => 10 * n + (c.toNat - '0'.toNat)) 0

/-- `digits · 10 ^ exponent`, exactly. -/
def scaled (digits : Nat) (exponent : Int) : Rat :=
  mkRat (digits * Nat.pow 10 exponent.toNat) (Nat.pow 10 (-exponent).toNat)

/-- The binary64 number nearest to `digits · 10 ^ exponent`. Beyond the range of finite numbers the
power itself is not computed. -/
def ofDecimal (negative : Bool) (digits : Nat) (exponent : Int) : Number :=
  if digits = 0 then .finite 0
  else
    let magnitude : Int := (Nat.repr digits).length + exponent
    if 310 ≤ magnitude then .infinite negative
    else if magnitude ≤ -324 then .finite 0
    else binary64 (if negative then -scaled digits exponent else scaled digits exponent)

/-! ## Writing -/

/-- The least `p` with `x < 10 ^ p`, for a positive `x`. -/
def decimalPoint (x : Rat) : Int :=
  let guess : Int := (Nat.repr x.num.natAbs).length - (Nat.repr x.den).length
  if scaled 1 guess ≤ x then guess + 1 else guess

/-- The digits of `x` on the grid of `k` significant digits, if one of its neighbours there reads
back as `x`; of two the nearer, of two equally near the even one. -/
def onGrid? (x : Rat) (k : Nat) : Option Nat :=
  let e := decimalPoint x - k
  let y := x / scaled 1 e
  let below := y.floor.toNat
  let readsBack (digits : Nat) : Bool := decide (binary64 (scaled digits e) = .finite x)
  let nearer :=
    if y - below < 1 / 2 then below
    else if 1 / 2 < y - below then below + 1
    else if below % 2 = 0 then below else below + 1
  let farther := if nearer = below then below + 1 else below
  if readsBack nearer then some nearer
  else if readsBack farther then some farther
  else none

/-- The shortest digits that read back as a positive `x`, without trailing zeros, and the place of
the point before them. Seventeen digits always suffice. -/
def shortest (x : Rat) : List Char × Int :=
  let k := ((List.range 17).map (· + 1)).find? fun k => (onGrid? x k).isSome
  let width := k.getD 17
  let digits := (Nat.repr ((onGrid? x width).getD 0)).toList
  let point := decimalPoint x + ((digits.length : Int) - width)
  ((digits.reverse.dropWhile (· == '0')).reverse, point)

/-- Where positional notation begins and ends. -/
structure DecimalForm where
  /-- Up to this many places before the point are written positionally. -/
  maxPlaces : Int
  /-- Up to this many zeros between the point and the first digit are written. -/
  maxZeros : Int

/-- Numbers below `10 ^ 21` and from `10 ^ -6` up are written positionally. -/
def positional : DecimalForm := ⟨21, 5⟩

/-- Digits with a point at its place, or in scientific notation. -/
def place (form : DecimalForm) (digits : List Char) (point : Int) : List Char :=
  let zeros (n : Int) := List.replicate n.toNat '0'
  if digits.length ≤ point ∧ point ≤ form.maxPlaces then digits ++ zeros (point - digits.length)
  else if 0 < point ∧ point ≤ form.maxPlaces then
    digits.take point.toNat ++ '.' :: digits.drop point.toNat
  else if -form.maxZeros ≤ point ∧ point ≤ 0 then '0' :: '.' :: zeros (-point) ++ digits
  else
    let exponent := point - 1
    let mantissa := match digits with
      | [d] => [d]
      | d :: ds => d :: '.' :: ds
      | [] => []
    mantissa ++ 'e' :: (if exponent < 0 then '-' else '+') :: (Nat.repr exponent.natAbs).toList

def text : Number → String
  | infinite negative => if negative then "-Infinity" else "Infinity"
  | finite x =>
    if x = 0 then "0"
    else
      let (digits, point) := shortest (if x < 0 then -x else x)
      let body := place positional digits point
      .ofList (if x < 0 then '-' :: body else body)

/-! ## Reading -/

def takeSign : List Char → Bool × List Char
  | '-' :: cs => (true, cs)
  | '+' :: cs => (false, cs)
  | cs => (false, cs)

/-- An exponent part: nothing, or `e` with a signed number behind it. -/
def takeExponent (cs : List Char) : Option (Int × List Char) :=
  match cs with
  | e :: rest =>
    if e = 'e' ∨ e = 'E' then
      let (negative, body) := takeSign rest
      match body.takeWhile Char.isDigit with
      | [] => none
      | digits => some (if negative then -(ofDigits digits : Int) else ofDigits digits,
          body.dropWhile Char.isDigit)
    else some (0, cs)
  | [] => some (0, [])

/-- Digits before the point, and digits after it if there is one. -/
def takePoint (cs : List Char) : List Char × Option (List Char) × List Char :=
  match cs.dropWhile Char.isDigit with
  | '.' :: rest =>
    (cs.takeWhile Char.isDigit, some (rest.takeWhile Char.isDigit), rest.dropWhile Char.isDigit)
  | rest => (cs.takeWhile Char.isDigit, none, rest)

def ofParts (negative : Bool) (whole fraction : List Char) (exponent : Int) : Number :=
  ofDecimal negative (ofDigits (whole ++ fraction)) (exponent - fraction.length)

/-- The value of a digit of a base up to 16. -/
def digitValue? (base : Nat) (c : Char) : Option Nat :=
  let v :=
    if c.isDigit then some (c.toNat - '0'.toNat)
    else if 'a' ≤ c ∧ c ≤ 'f' then some (c.toNat - 'a'.toNat + 10)
    else if 'A' ≤ c ∧ c ≤ 'F' then some (c.toNat - 'A'.toNat + 10)
    else none
  v.filter (· < base)

def ofBase? (base : Nat) (cs : List Char) : Option Number :=
  match cs.mapM (digitValue? base) with
  | none | some [] => none
  | some digits => some (binary64 (digits.foldl (fun n d => base * n + d) 0 : Nat))

/-- A whole text as a number: decimal with an optional sign, point and exponent, `Infinity`, or
digits of another base behind `0x`, `0o` or `0b`. The empty text is zero. -/
def ofText? (cs : List Char) : Option Number :=
  match cs with
  | [] => some (.finite 0)
  | '0' :: 'x' :: rest | '0' :: 'X' :: rest => ofBase? 16 rest
  | '0' :: 'o' :: rest | '0' :: 'O' :: rest => ofBase? 8 rest
  | '0' :: 'b' :: rest | '0' :: 'B' :: rest => ofBase? 2 rest
  | _ =>
    let (negative, body) := takeSign cs
    if body = "Infinity".toList then some (.infinite negative)
    else
      let (whole, fraction, rest) := takePoint body
      if whole = [] ∧ fraction.getD [] = [] then none
      else
        match takeExponent rest with
        | some (exponent, []) => some (ofParts negative whole (fraction.getD []) exponent)
        | _ => none

end TelemetryBridge.Number
