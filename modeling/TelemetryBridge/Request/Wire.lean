import TelemetryBridge.Request.Basic
import TelemetryBridge.Text.Units
import TelemetryBridge.Text.Utf8

/-!
# Requests on the wire

The protobuf form of a subscribe request. Fields are written in the order of their numbers; texts,
modes and messages that are set are written even when they are empty or zero; a list without
members writes nothing.
-/

namespace TelemetryBridge.Wire

/-- A number in base 128, least significant group first; every byte but the last has its top bit
set. -/
def varint (n : Nat) : Bytes :=
  if n < 128 then [UInt8.ofNat n] else UInt8.ofNat (n % 128 + 128) :: varint (n / 128)
termination_by n

/-- A number under its field number. -/
def number (field value : Nat) : Bytes :=
  varint (field * 8) ++ varint value

/-- Bytes under their field number, with their length in front. -/
def message (field : Nat) (body : Bytes) : Bytes :=
  varint (field * 8 + 2) ++ varint body.length ++ body

/-- The bytes of a code point. A surrogate that stands alone is written like any other code point of
three bytes in a short text, and replaced by U+FFFD in a long one. -/
def code (short : Bool) (n : Nat) : Bytes :=
  if Text.isHigh n || Text.isLow n then
    if short then
      [0xED, UInt8.ofNat (0x80 + n / 64 % 64), UInt8.ofNat (0x80 + n % 64)]
    else String.utf8EncodeChar '\uFFFD'
  else String.utf8EncodeChar (Char.ofNat n)

/-- The length, in UTF-16 code units, from which on a text is long. -/
def longText : Nat := 40

/-- The bytes of a text: UTF-8, but for surrogates that stand alone. -/
def textBytes (s : String) : Bytes :=
  (Text.codes s.toList).flatMap (code (decide ((Text.units s).length < longText)))

/-- A text under its field number. -/
def text (field : Nat) (s : String) : Bytes :=
  message field (textBytes s)

/-- A key without a value is written as the text `null`. -/
def key (entry : String × Option String) : Bytes :=
  message 2 (text 1 entry.1 ++ text 2 (entry.2.getD "null"))

/-- A path element: name, then keys in their order. -/
def pathElem (e : PathElem) : Bytes :=
  text 1 e.name ++ e.key.entries.flatMap key

/-- A path: raw segments, origin, elements, target. -/
def path (p : Path) : Bytes :=
  (p.element.getD []).flatMap (text 1) ++ p.origin.elim [] (text 2) ++
    p.elem.flatMap (fun e => message 3 (pathElem e)) ++ p.target.elim [] (text 4)

def modeNumber : SubscriptionMode → Nat
  | .targetDefined => 0
  | .onChange => 1
  | .sample => 2

/-- A subscription: path, then mode. -/
def subscription (s : Subscription) : Bytes :=
  message 1 (path s.path) ++ number 2 (modeNumber s.mode)

/-- A request: the target's name in a path of its own, then the subscriptions. -/
def request (r : SubscribeRequest) : Bytes :=
  message 1 (message 1 (text 4 r.targetName) ++
    r.subscriptions.flatMap fun s => message 2 (subscription s))

end TelemetryBridge.Wire
