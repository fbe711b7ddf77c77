import TelemetryBridge.Relay

/-!
# Relays that share a hand-off

Any number of relays, each with streams of its own, on one hand-off and in one scope. One relay is
active at a time; it holds the hand-off, what is underway and the history. A delivery is made by the
relay that it is for.
-/

namespace TelemetryBridge

namespace Relay

variable {ω : Type}

/-- The relay without what it shares with others. -/
def parked (r : Relay ω) : Relay ω := { r with handoff := {}, underway := [], history := [] }

/-- The relay with what the given one shares. -/
def takingOver (r source : Relay ω) : Relay ω :=
  { r with handoff := source.handoff, underway := source.underway, history := source.history }

end Relay

/-- The active relay, and the others, which are parked. -/
structure Relays (ω : Type) where
  active : Relay ω
  others : List (Relay ω) := []

namespace Relays

variable {ω : Type}

/-- All relays in the order of their numbers. -/
def inOrder (rs : Relays ω) : List (Relay ω) :=
  (rs.active :: rs.others).mergeSort fun a b => a.number ≤ b.number

def worlds (rs : Relays ω) : List ω := rs.inOrder.map (·.world)

/-- Makes the relay of the given number active, if there is one. -/
def turnTo (rs : Relays ω) (number : Nat) : Relays ω :=
  match rs.others.find? (·.number == number) with
  | none => rs
  | some r =>
    { active := r.takingOver rs.active
      others := rs.active.parked :: rs.others.filter (·.number != number) }

/-- Makes active the relay that the first delivery underway is for. -/
def turnToFirst (rs : Relays ω) : Relays ω :=
  match rs.active.underway with
  | .answer number _ :: _ => rs.turnTo number
  | _ => rs

/-- A further relay becomes active. It has no sessions yet. -/
def add (rs : Relays ω) (world : ω) : Relays ω :=
  let fresh : Relay ω := {
    number := rs.others.length + 1
    world
    request := rs.active.request
    metadata := rs.active.metadata }
  { active := fresh.takingOver rs.active, others := rs.active.parked :: rs.others }

section

variable [Endpoints ω]

/-- Cancels the scope: all streams learn of it before the hand-off does. A scope is cancelled only
once. -/
def cancel (rs : Relays ω) (reason : Failure) : Relays ω :=
  match rs.active.cancelled? with
  | some _ => rs
  | none =>
    let told := rs.others.map fun r => r.withWorld (Endpoints.cancel r.world)
    { active := (rs.active.post (told.flatMap (·.underway))).cancel reason
      others := told.map Relay.parked }

/-- An event at the endpoints of the last relay that has the streams it is about. -/
def occur? (rs : Relays ω) (hasStream : ω → Bool) (event : ω → Option (List Answer × ω)) :
    Option (Relays ω) := do
  let r ← (rs.inOrder.filter fun r => hasStream r.world).getLast?
  let rs := rs.turnTo r.number
  return { rs with active := ← rs.active.occur? event }

/-- A bound on the deliveries that can be made before the next event. -/
def work (rs : Relays ω) : Nat := (rs.others.map Relay.work).foldr (· + ·) rs.active.work

def turns : Nat → Relays ω → Relays ω
  | 0, rs => rs
  | n + 1, rs =>
    let rs := rs.turnToFirst
    match rs.active.turn? with
    | none => rs
    | some r => turns n { rs with active := r }

/-- Makes deliveries until none is underway. -/
def settle (rs : Relays ω) : Relays ω := rs.turns rs.work

end

end Relays

end TelemetryBridge
