import TelemetryBridge.Bridge
import TelemetryBridge.Credentials
import TelemetryBridge.Dial
import TelemetryBridge.Path.Printer
import TelemetryBridge.Stream.Calls

/-!
# The service

One run of the bridge from its configuration: the credentials are built, the collector and then the
target are dialed, and the bridge relays until its external signal is aborted. Whatever happens,
every client that was created is closed when the run has ended. Left out is what can go wrong in
libraries on the way: that a channel refuses the credentials that were built, that the definitions
of the two services cannot be loaded, and that closing a client fails.
-/

namespace TelemetryBridge

/-- The delays that a configuration asks for. A validated configuration has finite ones. -/
def RetryConfig.policy (arith : Backoff.Rounding) (random : Nat → Rat) (retry : RetryConfig) :
    Backoff.Policy :=
  match retry.initialDelayMs, retry.maxDelayMs with
  | .finite initial, .finite cap =>
    if 0 < initial then Backoff.exponential arith initial cap random else Backoff.immediate
  | _, _ => Backoff.immediate

/-- What a service finds around it. -/
structure Surroundings where
  read : Credentials.FileReader
  pki : Pki
  /-- The k-th random number. -/
  random : Nat → Rat
  /-- How waiting for a peer ends, wait by wait. -/
  outcomes : List (Option String)
  /-- The timer between attempts. Where the clock is moved by hand, it is punctual. -/
  timer : Backoff.Timer := Backoff.punctual

structure Service where
  clients : Clients := {}
  /-- What was logged before the bridge started. -/
  log : List LogEvent := []
  bridge : Option (Bridge Calls) := none
  result : Option (Except Failure Totals) := none

namespace Service

/-- The number of the only run of the bridge, and of its external signal. -/
def signal : Nat := 0

/-- What is logged at the start. -/
def startEvents (cfg : Settings) (credentials : Credentials) : List LogEvent :=
  let vrf := cfg.resolved.collector.vrf
  let source := cfg.resolved.sourceAddress
  let ignored := if vrf.isSome || source.isSome then [LogEvent.routingIgnored vrf source] else []
  ignored ++ [.starting {
    target := cfg.resolved.targetAddress
    collector := cfg.resolved.collector.address
    collectorTls := credentials.describe
    paths := cfg.resolved.paths.map Path.format
    authenticated := (cfg.config.target.username.filter (· ≠ "")).isSome }]

def createBridge (around : Surroundings) (cfg : Settings) : Bridge Calls :=
  Bridge.create {} (.ofPaths cfg.config.target.value cfg.resolved.paths)
    (Login.ofCredentials cfg.config.target.username cfg.config.target.password)
    (cfg.config.retry.policy Backoff.binary64 around.random) around.timer

/-- Dials both peers. If the target cannot be dialed the client of the collector is closed. -/
def dialPeers (cfg : Settings) (clients : Clients) : Except DialFault Unit × Clients :=
  let timeout := cfg.config.dialTimeoutMs
  match clients.dial .collector cfg.resolved.collector.address timeout with
  | (.error fault, clients) => (.error fault, clients)
  | (.ok (), clients) =>
    match clients.dial .target cfg.resolved.targetAddress timeout with
    | (.error fault, clients) => (.error fault, clients.close .collector)
    | (.ok (), clients) => (.ok (), clients)

/-- Starts the service; its external signal may have been aborted before. -/
def start (around : Surroundings) (cfg : Settings) (aborted : Option Failure) : Service :=
  let clients : Clients := { outcomes := around.outcomes }
  match Credentials.build around.pki around.read cfg.config.collector.tls with
  | .error fault => { clients, result := some (.error fault.toFailure) }
  | .ok credentials =>
    let log := startEvents cfg credentials
    match dialPeers cfg clients with
    | (.error fault, clients) => { clients, log, result := some (.error fault.toFailure) }
    | (.ok (), clients) =>
      let bridge := createBridge around cfg
      let bridge := match aborted with
        | some reason => bridge.abort signal reason
        | none => bridge
      { clients, log, bridge := some (bridge.start ⟨signal, some signal, none⟩) }

/-- Makes up to the given number of deliveries. When the bridge has stopped, the run has ended and
both clients are closed. -/
def turns (n : Nat) (s : Service) : Service :=
  match s.bridge, s.result with
  | some bridge, none =>
    let bridge := bridge.turns n
    if bridge.status = .stopped then
      { s with
        bridge := some bridge
        clients := (s.clients.close .target).close .collector
        result := some (.ok bridge.stats) }
    else { s with bridge := some bridge }
  | _, _ => s

def abort (s : Service) (reason : Failure) : Service :=
  { s with bridge := s.bridge.map fun bridge => bridge.abort signal reason }

def elapse (s : Service) (duration : Rat) : Service :=
  { s with bridge := s.bridge.map fun bridge => bridge.elapse duration }

def occur? (s : Service) (event : Calls.Event) : Option Service := do
  let bridge ← s.bridge
  return { s with bridge := some (← bridge.occur? (Calls.occur event)) }

def events (s : Service) : List LogEvent :=
  s.log ++ (s.bridge.elim [] fun bridge => bridge.relay.history).filterMap fun
    | .log event => some event
    | _ => none

def calls (s : Service) : Calls := s.bridge.elim {} fun bridge => bridge.relay.world

def pause? (s : Service) : Option Pause := s.bridge.bind fun bridge => bridge.pause

def underway (s : Service) : List Delivery := s.bridge.elim [] fun bridge => bridge.relay.underway

def work (s : Service) : Nat := s.bridge.elim 0 fun bridge => bridge.relay.work

end Service

end TelemetryBridge
