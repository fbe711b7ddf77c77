import TelemetryBridge.Failure

/-!
# Log events

What the bridge reports while it works, and the record written for each event.
-/

namespace TelemetryBridge

/-- Counts over the life of a bridge. -/
structure Totals where
  attempts : Nat := 0
  /-- Attempts that ended in an error other than an external stop. -/
  failures : Nat := 0
  /-- Updates written to the collector in all attempts. -/
  forwarded : Nat := 0
deriving DecidableEq

/-- What the bridge starts with, in words. -/
structure StartSummary where
  target : String
  collector : String
  collectorTls : String
  paths : List String
  authenticated : Bool

/-- Something worth a log record. -/
inductive LogEvent where
  | attemptStarted (attempt : Nat)
  | requestSent (subscriptions : Nat)
  | publishOpened
  | retrying (failure : Failure) (attempt forwarded : Nat) (delay : Number)
  | bridgeStopped (stats : Totals)
  | routingIgnored (vrf sourceAddress : Option String)
  | starting (summary : StartSummary)
  | shuttingDown (signal : String)
  | startFailed (failure : Failure)

/-- A failure inside a record: its class, message and code; a raised value as it is. -/
def Failure.logged (failure : Failure) : Option Json :=
  match failure with
  | .value v => some v
  | .absent => none
  | _ =>
    some <| .object <|
      [("type", .text (failure.className?.getD "Error")), ("message", .text failure.message)] ++
        (failure.code?.map fun code => ("code", Json.text code.text)).toList

namespace Totals

def members (stats : Totals) : List (String × Json) :=
  [("attempts", .number (.ofNat stats.attempts)), ("failures", .number (.ofNat stats.failures)),
    ("forwarded", .number (.ofNat stats.forwarded))]

end Totals

namespace LogEvent

/-- The part of the bridge that reports the event, where it has a name. -/
def component? : LogEvent → Option String
  | attemptStarted _ | retrying .. | bridgeStopped _ => some "bridge"
  | requestSent _ => some "subscribe"
  | publishOpened => some "publish"
  | routingIgnored .. | starting _ => some "runtime"
  | shuttingDown _ | startFailed _ => none

def severity : LogEvent → Nat
  | attemptStarted _ | requestSent _ | publishOpened => 20
  | bridgeStopped _ | starting _ | shuttingDown _ => 30
  | retrying .. | routingIgnored .. => 40
  | startFailed _ => 60

def text : LogEvent → String
  | attemptStarted _ => "Starting subscribe and publish sessions"
  | requestSent _ => "Subscription sent"
  | publishOpened => "Publish stream opened"
  | retrying .. => "encountered error, retrying"
  | bridgeStopped _ => "Bridge stopped"
  | routingIgnored .. =>
    "VRF and source address are parsed but not applied to the collector connection"
  | starting _ => "Starting gNMI dial-out bridge"
  | shuttingDown _ => "Shutting down"
  | startFailed _ => "Bridge failed to start"

def textMember (name : String) (value : Option String) : List (String × Json) :=
  (value.map fun v => (name, Json.text v)).toList

def details : LogEvent → List (String × Json)
  | attemptStarted attempt => [("attempt", .number (.ofNat attempt))]
  | requestSent n => [("subscriptions", .number (.ofNat n))]
  | publishOpened => []
  | retrying failure attempt forwarded delay =>
    (failure.logged.map fun err => ("err", err)).toList ++
      [("attempt", .number (.ofNat attempt)), ("forwarded", .number (.ofNat forwarded)),
        ("delayMs", .number delay)]
  | bridgeStopped stats => stats.members
  | routingIgnored vrf sourceAddress =>
    textMember "vrf" vrf ++ textMember "sourceAddress" sourceAddress
  | starting s =>
    [("target", .text s.target), ("collector", .text s.collector),
      ("collectorTls", .text s.collectorTls), ("paths", .array (s.paths.map .text)),
      ("authenticated", .bool s.authenticated)]
  | shuttingDown signal => [("signal", .text signal)]
  | startFailed failure => (failure.logged.map fun err => ("err", err)).toList

/-- The record of the event as written by a logger with the given bindings. -/
def record (bindings : List (String × Json)) (event : LogEvent) : Json :=
  .object <| ("level", .number (.ofNat event.severity)) :: bindings ++ event.details ++
    [("msg", .text event.text)]

end LogEvent

end TelemetryBridge
