import TelemetryBridge.Backoff
import TelemetryBridge.Relay

/-!
# The bridge

The supervisor of the two sessions. Each attempt has a fresh scope, a fresh hand-off and a fresh
pair of sessions. Whichever session ends first cancels the scope; once both have ended, the failure
is reported and the next attempt starts when the timer has run that was set to the backoff delay. An
external signal stops the bridge.
-/

namespace TelemetryBridge

/-- A call that runs the bridge: its number, the external signal that stops it, and the total of
attempts at which it stops by itself. -/
structure BridgeRun where
  number : Nat
  signal : Option Nat
  limit : Option Number

/-- A wait between two attempts. -/
structure Pause where
  /-- The delay that the timer was set to. -/
  delay : Number
  /-- When the timer has run. -/
  due : Number

/-- A bridge between the endpoints of a world. -/
structure Bridge (ω : Type) where
  relay : Relay ω
  policy : Backoff.Policy
  timer : Backoff.Timer := Backoff.punctual
  status : BridgeStatus := .idle
  /-- Sessions that have not ended. -/
  active : Nat := 0
  attempts : Nat := 0
  failures : Nat := 0
  /-- Attempts in a row that failed, counted anew after an attempt that forwarded an update. -/
  consecutive : Nat := 0
  /-- The first failure of a session in this attempt. -/
  firstFailure : Option Failure := none
  /-- Updates forwarded before this attempt. -/
  forwardedBefore : Nat := 0
  run : Option BridgeRun := none
  pause : Option Pause := none
  clock : Rat := 0
  /-- External signals that are aborted, with their reasons. -/
  aborted : List (Nat × Failure) := []

namespace Bridge

variable {ω : Type}

def create (world : ω) (request : SubscribeRequest) (metadata : Option Login)
    (policy : Backoff.Policy) (timer : Backoff.Timer := Backoff.punctual) : Bridge ω :=
  { relay := { world, request, metadata }, policy, timer }

def stats (b : Bridge ω) : Totals := ⟨b.attempts, b.failures, b.relay.forwarded⟩

def note (b : Bridge ω) (n : Note) : Bridge ω := { b with relay := b.relay.note n }

def isBusy (b : Bridge ω) : Bool := b.status == .running || b.status == .restarting

/-- The reason with which the signal of a run was aborted. -/
def stopReason? (b : Bridge ω) (run : BridgeRun) : Option Failure :=
  run.signal.bind fun signal => b.aborted.lookup signal

/-- Ends the run: the bridge is stopped and the run yields the counts. -/
def stop (b : Bridge ω) (run : BridgeRun) : Bridge ω :=
  ({ b with status := .stopped, run := none, pause := none }.note
    (.log (.bridgeStopped b.stats))).note (.runEnded run.number (.ok b.stats))

/-- Ends an attempt of which both sessions have ended. After an external stop the run is over;
otherwise the failure is counted and reported, and the timer is set. -/
def finishAttempt (b : Bridge ω) : Bridge ω :=
  match b.run with
  | none => b
  | some run =>
    let b := { b with status := .restarting }
    match b.stopReason? run with
    | some _ => b.stop run
    | none =>
      let forwarded := b.relay.forwarded - b.forwardedBefore
      let consecutive := if 0 < forwarded then 1 else b.consecutive + 1
      let delay := b.policy b.failures consecutive
      let pause : Pause := ⟨delay, (b.timer delay).after b.clock⟩
      let b := { b with failures := b.failures + 1, consecutive, pause := some pause }
      (b.note (.backoffAsked consecutive)).note
        (.log (.retrying (b.firstFailure.getD .absent) b.attempts forwarded delay))

section

variable [Endpoints ω]

/-- Starts both sessions in a fresh scope, the subscribe session first. -/
def startSessions (b : Bridge ω) : Bridge ω :=
  let b := { b with
    active := 2
    firstFailure := none
    forwardedBefore := b.relay.forwarded
    relay := { b.relay with handoff := {}, subscriber := none, publisher := none } }
  let b := b.note (.opening .subscribe b.active b.status)
  let b := { b with relay := b.relay.startSubscriber }
  let b := b.note (.opening .publish b.active b.status)
  { b with relay := b.relay.startPublisher }

/-- Begins the next attempt of a run, unless the run has been stopped or has had all its attempts.
-/
def nextAttempt (b : Bridge ω) (run : BridgeRun) : Bridge ω :=
  let exhausted := run.limit.any fun limit => Number.le limit (.ofNat b.attempts)
  if (b.stopReason? run).isSome || exhausted then b.stop run
  else
    let b := { b with
      attempts := b.attempts + 1, status := .running, run := some run, pause := none }
    (b.note (.log (.attemptStarted b.attempts))).startSessions

/-- Runs the bridge. A bridge that is running already refuses. -/
def start (b : Bridge ω) (run : BridgeRun) : Bridge ω :=
  if b.isBusy then b.note (.runEnded run.number (.error (.error "Bridge already running")))
  else b.nextAttempt run

/-- A session has ended: its failure is recorded if it is the first, and cancels the scope. -/
def sessionEnded (b : Bridge ω) (failure : Failure) : Bridge ω :=
  let b := { b with
    firstFailure := b.firstFailure <|> some failure
    relay := b.relay.cancel failure
    active := b.active - 1 }
  if b.active = 0 then b.finishAttempt else b

def deliver (b : Bridge ω) : Delivery → Bridge ω
  | .ended side failure => (b.note (.sessionEnded side failure)).sessionEnded failure
  | d => { b with relay := b.relay.deliver d }

/-- Makes the delivery that has been underway longest. -/
def turn? (b : Bridge ω) : Option (Bridge ω) :=
  match b.relay.underway with
  | [] => none
  | d :: ds => some ({ b with relay := { b.relay with underway := ds } }.deliver d)

def turns : Nat → Bridge ω → Bridge ω
  | 0, b => b
  | n + 1, b =>
    match b.turn? with
    | none => b
    | some b => turns n b

/-- Makes deliveries until none is underway. -/
def settle (b : Bridge ω) : Bridge ω := b.turns b.relay.work

/-- Aborts an external signal. It cancels the attempt of the run that it stops, or ends its wait. A
signal is aborted only once. -/
def abort (b : Bridge ω) (signal : Nat) (reason : Failure) : Bridge ω :=
  if (b.aborted.lookup signal).isSome then b
  else
    let b := { b with aborted := b.aborted ++ [(signal, reason)] }
    match b.run with
    | none => b
    | some run =>
      if run.signal = some signal then
        if b.pause.isSome then b.stop run else { b with relay := b.relay.cancel reason }
      else b

/-- Time passes. When the timer has run, the next attempt begins. -/
def elapse (b : Bridge ω) (duration : Rat) : Bridge ω :=
  let b := { b with clock := b.clock + duration }
  match b.run, b.pause with
  | some run, some pause =>
    if Number.le pause.due (.finite b.clock) then b.nextAttempt run else b
  | _, _ => b

/-- An event at the endpoints, if it applies. -/
def occur? (b : Bridge ω) (event : ω → Option (List Answer × ω)) : Option (Bridge ω) :=
  (b.relay.occur? event).map fun relay => { b with relay }

end

end Bridge

end TelemetryBridge
