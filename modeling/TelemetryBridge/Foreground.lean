import TelemetryBridge.Log.Event

/-!
# Running in the foreground

The service runs until it ends by itself or the operator interrupts it. An interruption aborts the
external signal of the service with a reason; only the first one counts.
-/

namespace TelemetryBridge

/-- The process signals that interrupt the service. -/
inductive ProcessSignal where
  | interrupt
  | terminate
deriving DecidableEq

namespace ProcessSignal

def name : ProcessSignal → String
  | interrupt => "SIGINT"
  | terminate => "SIGTERM"

/-- All signals that are listened to. -/
def all : List ProcessSignal := [interrupt, terminate]

def ofName? (s : String) : Option ProcessSignal := all.find? fun signal => signal.name == s

end ProcessSignal

/-- A service in the foreground: the signals listened to, the reason of the first interruption, and
what has been logged. -/
structure Foreground where
  listening : List ProcessSignal := []
  aborted : Option Failure := none
  log : List LogEvent := []

namespace Foreground

/-- Before the service starts, both signals are listened to. -/
def start : Foreground := { listening := ProcessSignal.all }

def interrupt (f : Foreground) (signal : ProcessSignal) : Foreground :=
  if signal ∈ f.listening then
    { f with
      log := f.log ++ [.shuttingDown signal.name]
      aborted := f.aborted <|> some (.error ("received " ++ signal.name)) }
  else f

/-- The service has ended. A failure is logged. Nothing is listened to any more. -/
def finish {α : Type} (f : Foreground) (result : Except Failure α) : Foreground :=
  match result with
  | .ok _ => { f with listening := [] }
  | .error failure => { f with listening := [], log := f.log ++ [.startFailed failure] }

end Foreground

end TelemetryBridge
