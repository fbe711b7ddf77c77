import TelemetryBridge.Address.Target
import TelemetryBridge.Failure

/-!
# Dialing

The long-lived client of each peer. Without a timeout it connects in the background; with one the
dial waits until the peer is ready, and a client that does not become ready is closed.
-/

namespace TelemetryBridge

/-- The two peers of the bridge. -/
inductive Peer where
  | target
  | collector
deriving DecidableEq

def Peer.name : Peer → String
  | target => "target"
  | collector => "collector"

/-- Why a peer cannot be dialed. -/
inductive DialFault where
  | notDialable (peer : Peer) (address : String)
  | notReady (peer : Peer) (address reason : String)

namespace DialFault

def message : DialFault → String
  | notDialable peer address =>
    "error dialing " ++ peer.name ++ " \"" ++ address ++ "\": Could not parse target name \"" ++
      address ++ "\""
  | notReady peer address reason =>
    "error dialing " ++ peer.name ++ " \"" ++ address ++ "\": " ++ reason

/-- What the operator may try. -/
def suggestion? : DialFault → Option String
  | notDialable _ _ => none
  | notReady peer _ _ =>
    some ("Check that the " ++ peer.name ++ " is reachable and its TLS settings match")

def toFailure (fault : DialFault) : Failure := .dial fault.message fault.suggestion?

end DialFault

/-- What happens to the client of a peer. -/
inductive ClientEvent where
  | created (peer : Peer)
  | waited (peer : Peer) (timeout : Number)
  | closed (peer : Peer)
deriving DecidableEq

/-- What has happened to the clients, and how the waits to come will end: ready, or with a reason.
Waits that are not foreseen end ready. -/
structure Clients where
  events : List ClientEvent := []
  outcomes : List (Option String) := []

namespace Clients

def note (c : Clients) (event : ClientEvent) : Clients := { c with events := c.events ++ [event] }

def close (c : Clients) (peer : Peer) : Clients := c.note (.closed peer)

def dial (c : Clients) (peer : Peer) (address : String) (timeout : Number) :
    Except DialFault Unit × Clients :=
  if !Address.isDialable address then (.error (.notDialable peer address), c)
  else
    let c := c.note (.created peer)
    if Number.le timeout 0 then (.ok (), c)
    else
      let outcome := c.outcomes.head?.join
      let c := { c.note (.waited peer timeout) with outcomes := c.outcomes.tail }
      match outcome with
      | none => (.ok (), c)
      | some reason => (.error (.notReady peer address reason), c.close peer)

/-- The timeouts that were waited with. -/
def waits (c : Clients) : List Number :=
  c.events.filterMap fun
    | .waited _ timeout => some timeout
    | _ => none

/-- How many clients have been closed. -/
def closes (c : Clients) : Nat :=
  (c.events.filter fun
    | .closed _ => true
    | _ => false).length

end Clients

end TelemetryBridge
