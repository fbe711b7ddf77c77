import TelemetryBridge.Session.Publish

/-!
# Endpoints

The two ends between which the bridge relays, as the sessions use them. A call on an endpoint
changes it and yields the answers that are due at once; a call without an answer is blocked until
an event at the endpoint answers it.
-/

namespace TelemetryBridge

/-- The two sides of the bridge. -/
inductive Side where
  | subscribe
  | publish
deriving DecidableEq

/-- An answer to a session. A `later` one is due one turn after the others. -/
inductive Answer where
  | subscriber (reply : SubscribeSession.Reply)
  | publisher (reply : PublishSession.Reply)
  | later (answer : Answer)

/-- What a pair of endpoints offers. -/
class Endpoints (ω : Type) where
  openSubscribe : Option Login → ω → Except Failure Unit × ω
  sendRequest : SubscribeRequest → ω → List Answer × ω
  /-- Asks for the next update. -/
  receive : ω → List Answer × ω
  closeSubscribe : ω → List Answer × ω
  openPublish : ω → Except Failure Unit × ω
  sendUpdate : Update → ω → List Answer × ω
  closePublish : ω → List Answer × ω
  /-- Tells both streams that their scope is cancelled. -/
  cancel : ω → List Answer × ω
  /-- How many calls for an update can be answered at once. -/
  backlog : ω → Nat

end TelemetryBridge
