/-!
# UTF-8

Texts as bytes and bytes as texts. Reading never fails: every maximal piece of an ill-formed
sequence reads as one U+FFFD, and a byte order mark stays in the text.
-/

namespace TelemetryBridge

abbrev Bytes := List UInt8

namespace Text

def utf8 (s : String) : Bytes :=
  s.toList.flatMap String.utf8EncodeChar

/-- What a leading byte announces: the payload of the leading byte, and the ranges in which the
continuation bytes must lie. The ranges exclude overlong forms, surrogates and values above
U+10FFFF. -/
def leadingByte (b : Nat) : Option (Nat × List (Nat × Nat)) :=
  if b < 0x80 then some (b, [])
  else if b < 0xC2 then none
  else if b < 0xE0 then some (b - 0xC0, [(0x80, 0xBF)])
  else if b < 0xF0 then
    let second := if b = 0xE0 then (0xA0, 0xBF) else if b = 0xED then (0x80, 0x9F) else (0x80, 0xBF)
    some (b - 0xE0, [second, (0x80, 0xBF)])
  else if b < 0xF5 then
    let second := if b = 0xF0 then (0x90, 0xBF) else if b = 0xF4 then (0x80, 0x8F) else (0x80, 0xBF)
    some (b - 0xF0, [second, (0x80, 0xBF), (0x80, 0xBF)])
  else none

/-- Takes continuation bytes as long as they lie in their ranges: the code point if all do, else
nothing, and the bytes left. -/
def continuation (value : Nat) : List (Nat × Nat) → Bytes → Option Nat × Bytes
  | [], bytes => (some value, bytes)
  | _ :: _, [] => (none, [])
  | (lo, hi) :: ranges, b :: bytes =>
    if lo ≤ b.toNat ∧ b.toNat ≤ hi then
      continuation (value * 64 + b.toNat % 64) ranges bytes
    else (none, b :: bytes)

theorem continuation_rest_le (value : Nat) (ranges : List (Nat × Nat)) (bytes : Bytes) :
    (continuation value ranges bytes).2.length ≤ bytes.length := by
  fun_induction continuation value ranges bytes <;> simp_all
  omega

/-- The next character and the bytes behind it. -/
def nextChar (b : UInt8) (bytes : Bytes) : Char × Bytes :=
  match leadingByte b.toNat with
  | none => ('\uFFFD', bytes)
  | some (value, ranges) =>
    match continuation value ranges bytes with
    | (some code, rest) => (Char.ofNat code, rest)
    | (none, rest) => ('\uFFFD', rest)

theorem nextChar_rest_le (b : UInt8) (bytes : Bytes) :
    (nextChar b bytes).2.length ≤ bytes.length := by
  unfold nextChar
  split
  · simp
  · next value ranges _ =>
    have h := continuation_rest_le value ranges bytes
    split <;> next heq => simpa [heq] using h

def decodeChars : Bytes → List Char
  | [] => []
  | b :: bytes => (nextChar b bytes).1 :: decodeChars (nextChar b bytes).2
termination_by bytes => bytes.length
decreasing_by
  have := nextChar_rest_le b bytes
  simp only [List.length_cons]
  omega

/-- The text that a sequence of bytes reads as. -/
def decode (bytes : Bytes) : String :=
  .ofList (decodeChars bytes)

end Text

end TelemetryBridge
