import TelemetryBridge.Service

/-!
# Services side by side

Runs of the service that share their surroundings and the external signal. Each has clients and a
bridge of its own; what they log and how they end is collected in the order in which it happens.
Only the latest call to the target and the latest call to the collector are acted on.
-/

namespace TelemetryBridge

/-- Runs of the service, and what they have done together. Runs are named by their places. -/
structure Services where
  around : Surroundings
  config : Settings
  runs : List Service := []
  /-- The runs in the order in which they last began an attempt or a delay. -/
  order : List Nat := []
  clock : Rat := 0
  aborted : Option Failure := none
  /-- The run whose call to the target was opened last. -/
  targetRun : Option Nat := none
  /-- The run whose call to the collector was opened last. -/
  collectorRun : Option Nat := none
  log : List LogEvent := []
  accepted : List Update := []
  results : List (Except Failure Totals) := []

namespace Services

/-- Whether a run has begun an attempt or a delay. -/
def hasMoved (before after : Service) : Bool :=
  let attempts (s : Service) := s.bridge.map (·.attempts)
  attempts before != attempts after || before.pause?.isSome != after.pause?.isSome

/-- Puts a run in the place of what it was before, and collects what has happened. -/
def replace (g : Services) (run : Nat) (before after : Service) : Services :=
  let opened (count : Calls → Nat) := decide (count before.calls < count after.calls)
  { g with
    runs := g.runs.set run after
    order := if hasMoved before after then g.order.filter (· != run) ++ [run] else g.order
    targetRun := if opened (·.targetCalls) then some run else g.targetRun
    collectorRun := if opened (·.collectorCalls) then some run else g.collectorRun
    log := g.log ++ after.events.drop before.events.length
    accepted := g.accepted ++ after.calls.accepted.drop before.calls.accepted.length
    results := g.results ++ if before.result.isNone then after.result.toList else [] }

def step (f : Service → Service) (g : Services) (run : Nat) : Services :=
  match g.runs[run]? with
  | some s => g.replace run s (f s)
  | none => g

/-- Starts a run. It dials with the outcomes that the runs before it have left. -/
def start (g : Services) : Services :=
  let outcomes := g.runs.getLast?.elim g.around.outcomes fun s => s.clients.outcomes
  let s := (Service.start { g.around with outcomes } g.config g.aborted).elapse g.clock
  let blank : Service := {}
  { g with runs := g.runs ++ [blank] }.replace g.runs.length blank s

/-- Aborts the external signal. It is aborted only once. -/
def abort (g : Services) (reason : Failure) : Services :=
  match g.aborted with
  | some _ => g
  | none => g.order.foldl (step (·.abort reason)) { g with aborted := some reason }

/-- The delays that are being waited out, with their runs, in the order in which they began. -/
def pauses (g : Services) : List (Nat × Pause) :=
  g.order.filterMap fun run => do
    let s ← g.runs[run]?
    return (run, ← s.pause?)

/-- Time passes. The delay that is due first ends first. -/
def elapse (g : Services) (duration : Rat) : Services :=
  let sleepers := (g.pauses.mergeSort fun a b => Number.le a.2.due b.2.due).map Prod.fst
  let awake := (List.range g.runs.length).filter (· ∉ sleepers)
  (awake ++ sleepers).foldl (step (·.elapse duration)) { g with clock := g.clock + duration }

def occur? (g : Services) (event : Calls.Event) : Option Services := do
  let run ← match event with
    | .target _ => g.targetRun
    | .collector _ => g.collectorRun
  let s ← g.runs[run]?
  return g.replace run s (← s.occur? event)

/-- One round of the given runs: each makes the deliveries that are underway when its turn comes. -/
def round (order : List Nat) (g : Services) : Services :=
  order.foldl (step fun s => s.turns s.underway.length) g

/-- Up to the given number of rounds, as long as anything is underway. -/
def rounds (order : List Nat) : Nat → Services → Services
  | 0, g => g
  | n + 1, g =>
    let g := g.round order
    if g.runs.all fun s => s.result.isSome || s.underway.isEmpty then g else rounds order n g

def settle (g : Services) : Services :=
  g.rounds g.order ((g.runs.map Service.work).foldr (· + ·) 1)

/-- The call to the target that was opened last. -/
def target? (g : Services) : Option TargetCall := do
  let s ← g.runs[← g.targetRun]?
  s.calls.target

/-- The call to the collector that was opened last. -/
def collector? (g : Services) : Option CollectorCall := do
  let s ← g.runs[← g.collectorRun]?
  s.calls.collector

/-- How many calls of a kind there have been. -/
def count (g : Services) (kind : Calls → Nat) : Nat :=
  (g.runs.map fun s => kind s.calls).foldr (· + ·) 0

def waits (g : Services) : List Number := g.runs.flatMap fun s => s.clients.waits

def closes (g : Services) : Nat := (g.runs.map fun s => s.clients.closes).foldr (· + ·) 0

end Services

end TelemetryBridge
