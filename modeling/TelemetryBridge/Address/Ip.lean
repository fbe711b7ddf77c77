import TelemetryBridge.Number.Decimal
import TelemetryBridge.Text.Blank

/-!
# IP literals

Dotted quads, and groups of hexadecimal digits with at most one gap and an optional zone.
-/

namespace TelemetryBridge.Address

/-- A decimal number up to 255 without leading zeros. -/
def isOctet (cs : List Char) : Bool :=
  cs ≠ [] && cs.all Char.isDigit && (cs.head? != some '0' || cs.length == 1) && cs.length ≤ 3 &&
    Number.ofDigits cs ≤ 255

def isIPv4 (cs : List Char) : Bool :=
  let octets := Text.pieces '.' cs
  octets.length == 4 && octets.all isOctet

/-- One to four hexadecimal digits. -/
def isGroup (cs : List Char) : Bool :=
  0 < cs.length && cs.length ≤ 4 && cs.all fun c => (Number.digitValue? 16 c).isSome

/-- The number of groups that a list of parts stands for, if all are groups; the last part may be a
dotted quad, which stands for two. -/
def groupCount? : List (List Char) → Option Nat
  | [] => some 0
  | [part] => if isGroup part then some 1 else if isIPv4 part then some 2 else none
  | part :: parts => if isGroup part then (groupCount? parts).map (· + 1) else none

/-- The text before the first gap `::` and the text behind it. -/
def splitGap : List Char → List Char × Option (List Char)
  | ':' :: ':' :: rest => ([], some rest)
  | c :: cs =>
    let (before, after) := splitGap cs
    (c :: before, after)
  | [] => ([], none)

def sideParts (cs : List Char) : List (List Char) :=
  if cs = [] then [] else Text.pieces ':' cs

/-- Eight groups, or fewer with a gap. Only the last part can be a dotted quad. -/
def isGroups (cs : List Char) : Bool :=
  match splitGap cs with
  | (all, none) => groupCount? (Text.pieces ':' all) == some 8
  | (before, some after) =>
    let left := sideParts before
    left.all isGroup &&
      match groupCount? (sideParts after) with
      | some n => left.length + n ≤ 7
      | none => false

def isZoneChar (c : Char) : Bool :=
  c.isAlphanum || c == '-' || c == '.' || c == ':'

/-- An IPv6 literal, with an optional zone behind a percent sign. -/
def isIPv6 (cs : List Char) : Bool :=
  let groups := cs.takeWhile (· != '%')
  let zone := cs.dropWhile (· != '%')
  isGroups groups && (zone == [] || (zone.length ≠ 1 && zone.tail.all isZoneChar))

def isIP (cs : List Char) : Bool := isIPv4 cs || isIPv6 cs

end TelemetryBridge.Address
