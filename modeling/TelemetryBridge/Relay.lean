import TelemetryBridge.Handoff
import TelemetryBridge.Log.Event
import TelemetryBridge.Session.Endpoints

/-!
# The relay

A subscribe session and a publish session with the hand-off between them, inside one scope. Answers
reach their callers in the order in which they were given; the relay is at rest when none is
underway. The first failure of a session is not acted on here: it is a delivery like any other.
Relays that share their hand-off are told apart by numbers.
-/

namespace TelemetryBridge

/-- Who calls the hand-off: the sessions of a relay, or guests from outside the sessions. -/
inductive Party where
  | subscriber (relay : Nat)
  | publisher (relay : Nat)
  | guest (number : Nat)
deriving DecidableEq

/-- The signals of the hand-off: the scope of the sessions, and signals of the guests. -/
inductive Scope where
  | session
  | guest (number : Nat)
deriving DecidableEq

/-- An answer that is underway to a session of a relay, or the news that a session has ended. -/
inductive Delivery where
  | answer (relay : Nat) (answer : Answer)
  | guest (number : Nat) (outcome : CallOutcome Update)
  | ended (side : Side) (failure : Failure)

/-- What the bridge is doing. -/
inductive BridgeStatus where
  | idle
  | running
  | restarting
  | stopped
deriving DecidableEq

/-- Something that happened, in the order of the history. -/
inductive Note where
  | log (event : LogEvent)
  | opening (side : Side) (active : Nat) (status : BridgeStatus)
  | opened (side : Side)
  | subscriberTold (reply : SubscribeSession.Reply)
  | subscriberAsked (command : SubscribeSession.Command)
  | publisherTold (reply : PublishSession.Reply)
  | publisherAsked (command : PublishSession.Command)
  | sessionEnded (side : Side) (failure : Failure)
  | guestAnswered (number : Nat) (outcome : CallOutcome Update)
  | backoffAsked (failures : Nat)
  | runEnded (number : Nat) (result : Except Failure Totals)

/-- Two sessions between the endpoints of a world. -/
structure Relay (ω : Type) where
  number : Nat := 0
  world : ω
  request : SubscribeRequest
  metadata : Option Login
  handoff : Handoff Party Scope Update := {}
  subscriber : Option SubscribeSession.Phase := none
  publisher : Option PublishSession.Phase := none
  underway : List Delivery := []
  /-- Updates written to the collector so far. -/
  forwarded : Nat := 0
  history : List Note := []

namespace Relay

variable {ω : Type}

/-- The delivery that tells a caller of the hand-off how its call ended. -/
def outcomeDelivery : Party × CallOutcome Update → Delivery
  | (.subscriber n, .cancelled reason) =>
    .answer n (.subscriber (.offered (.error (.cancelled reason))))
  | (.subscriber n, _) => .answer n (.subscriber (.offered (.ok ())))
  | (.publisher n, .received update) => .answer n (.publisher (.taken (.ok update)))
  | (.publisher n, .cancelled reason) =>
    .answer n (.publisher (.taken (.error (.cancelled reason))))
  | (.publisher n, .sent) => .answer n (.publisher (.sent (.ok ())))
  | (.guest n, outcome) => .guest n outcome

/-- The reason with which the scope of the sessions was cancelled. -/
def cancelled? (r : Relay ω) : Option Failure := r.handoff.reason? .session

def note (r : Relay ω) (n : Note) : Relay ω := { r with history := r.history ++ [n] }

def noteOpening (r : Relay ω) (side : Side) : Except Failure Unit → Relay ω
  | .ok () => r.note (.opened side)
  | .error _ => r

def post (r : Relay ω) (ds : List Delivery) : Relay ω := { r with underway := r.underway ++ ds }

/-- Takes over the outcome of a call on the endpoints. -/
def withWorld (r : Relay ω) (result : List Answer × ω) : Relay ω :=
  { r with world := result.2 }.post (result.1.map (.answer r.number))

/-- Takes over the outcome of a call on the hand-off. -/
def withHandoff (r : Relay ω)
    (result : Handoff Party Scope Update × List (Party × CallOutcome Update)) : Relay ω :=
  { r with handoff := result.1 }.post (result.2.map outcomeDelivery)

section

variable [Endpoints ω]

def carryOutSubscriber (r : Relay ω) : SubscribeSession.Command → Relay ω
  | .sendRequest => r.withWorld (Endpoints.sendRequest r.request r.world)
  | .receive => r.withWorld (Endpoints.receive r.world)
  | .offer update => r.withHandoff (r.handoff.send (.subscriber r.number) update .session)
  | .close => r.withWorld (Endpoints.closeSubscribe r.world)
  | .noteRequestSent => r.note (.log (.requestSent r.request.subscriptions.length))

/-- Does what the subscribe session asks for. -/
def obeySubscriber (r : Relay ω) (command : SubscribeSession.Command) : Relay ω :=
  (r.note (.subscriberAsked command)).carryOutSubscriber command

def carryOutPublisher (r : Relay ω) : PublishSession.Command → Relay ω
  | .take => r.withHandoff (r.handoff.receive (.publisher r.number) .session)
  | .send update => r.withWorld (Endpoints.sendUpdate update r.world)
  | .forwarded _ => { r with forwarded := r.forwarded + 1 }
  | .close => r.withWorld (Endpoints.closePublish r.world)
  | .noteOpened => r.note (.log .publishOpened)

def obeyPublisher (r : Relay ω) (command : PublishSession.Command) : Relay ω :=
  (r.note (.publisherAsked command)).carryOutPublisher command

/-- Moves the subscribe session on. News of its end is posted behind everything it asked for. -/
def moveSubscriber (r : Relay ω) (next : SubscribeSession.Phase × List SubscribeSession.Command) :
    Relay ω :=
  let r := next.2.foldl obeySubscriber { r with subscriber := some next.1 }
  match next.1 with
  | .ended failure => r.post [.ended .subscribe failure]
  | _ => r

def movePublisher (r : Relay ω) (next : PublishSession.Phase × List PublishSession.Command) :
    Relay ω :=
  let r := next.2.foldl obeyPublisher { r with publisher := some next.1 }
  match next.1 with
  | .ended failure => r.post [.ended .publish failure]
  | _ => r

def startSubscriber (r : Relay ω) : Relay ω :=
  match r.cancelled? with
  | some reason => r.moveSubscriber (SubscribeSession.refused reason, [])
  | none =>
    let (result, world) := Endpoints.openSubscribe r.metadata r.world
    ({ r with world }.noteOpening .subscribe result).moveSubscriber
      (SubscribeSession.opened result)

def startPublisher (r : Relay ω) : Relay ω :=
  match r.cancelled? with
  | some reason => r.movePublisher (PublishSession.refused reason, [])
  | none =>
    let (result, world) := Endpoints.openPublish r.world
    ({ r with world }.noteOpening .publish result).movePublisher (PublishSession.opened result)

/-- Cancels the scope of the sessions: the streams learn of it first, then the hand-off. A scope is
cancelled only once. -/
def cancel (r : Relay ω) (reason : Failure) : Relay ω :=
  match r.cancelled? with
  | some _ => r
  | none =>
    let r := r.withWorld (Endpoints.cancel r.world)
    r.withHandoff (r.handoff.abort .session reason)

/-- Hands an answer to its session. A session that has ended hears nothing more. -/
def answer (r : Relay ω) : Answer → Relay ω
  | .subscriber reply =>
    match r.subscriber with
    | none | some (.ended _) => r
    | some phase =>
      (r.note (.subscriberTold reply)).moveSubscriber
        (SubscribeSession.react r.cancelled? phase reply)
  | .publisher reply =>
    match r.publisher with
    | none | some (.ended _) => r
    | some phase =>
      (r.note (.publisherTold reply)).movePublisher (PublishSession.react r.cancelled? phase reply)
  | .later answer => r.post [.answer r.number answer]

/-- Makes one delivery. The end of a session goes into the history. -/
def deliver (r : Relay ω) : Delivery → Relay ω
  | .answer _ answer => r.answer answer
  | .guest number outcome => r.note (.guestAnswered number outcome)
  | .ended side failure => r.note (.sessionEnded side failure)

/-- A guest offers an update, with one of the signals. -/
def guestSend (r : Relay ω) (number : Nat) (update : Update) (signal : Scope := .guest 0) :
    Relay ω :=
  r.withHandoff (r.handoff.send (.guest number) update signal)

/-- A guest asks for an update, with one of the signals. -/
def guestReceive (r : Relay ω) (number : Nat) (signal : Scope := .guest 0) : Relay ω :=
  r.withHandoff (r.handoff.receive (.guest number) signal)

/-- A signal of the guests is aborted. -/
def guestAbort (r : Relay ω) (signal : Nat) (reason : Failure) : Relay ω :=
  r.withHandoff (r.handoff.abort (.guest signal) reason)

/-- An event at the endpoints, if it applies. -/
def occur? (r : Relay ω) (event : ω → Option (List Answer × ω)) : Option (Relay ω) :=
  (event r.world).map r.withWorld

/-! ## Coming to rest -/

/-- How many deliveries an answer can lead to before it has to wait for an event. An update that is
received is offered, taken, sent and forwarded, and then the next one may be asked for. -/
def answerWork : Answer → Nat
  | .subscriber (.requestSent _) => 4
  | .subscriber (.received (.ok (some _))) => 9
  | .subscriber (.received _) => 2
  | .subscriber (.offered _) => 4
  | .publisher (.taken (.ok _)) => 4
  | .publisher (.taken (.error _)) => 2
  | .publisher (.sent _) => 3
  | .later answer => answerWork answer + 1

/-- How many deliveries a delivery can lead to, itself included. -/
def deliveryWork : Delivery → Nat
  | .answer _ answer => answerWork answer
  | .guest _ _ => 1
  | .ended _ _ => 1

/-- A bound on the deliveries that can be made before the next event: those underway, updates that
can be received at once, sends that wait for a receive, and the cancellation of both sessions. -/
def work (r : Relay ω) : Nat :=
  (r.underway.map deliveryWork).foldr (· + ·) 0 + 10 * Endpoints.backlog r.world +
    6 * r.handoff.senders.length + 12

/-- Makes the delivery that has been underway longest. -/
def turn? (r : Relay ω) : Option (Relay ω) :=
  match r.underway with
  | [] => none
  | d :: ds => some ({ r with underway := ds }.deliver d)

def turns : Nat → Relay ω → Relay ω
  | 0, r => r
  | n + 1, r =>
    match r.turn? with
    | none => r
    | some r => turns n r

/-- Makes deliveries until none is underway. -/
def settle (r : Relay ω) : Relay ω := r.turns r.work

end

end Relay

end TelemetryBridge
