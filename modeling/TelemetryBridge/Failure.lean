import TelemetryBridge.Json.Basic

/-!
# Failures

What can go wrong, by what the operator has to look at. Configuration and dial failures are fatal
at startup; stream failures and cancellations end one attempt of the bridge.
-/

namespace TelemetryBridge

/-- The kind of a failure of the bridge itself. -/
inductive FailureCode where
  | config
  | dial
  | stream
  | cancelled
deriving DecidableEq

def FailureCode.text : FailureCode → String
  | config => "CONFIG_ERROR"
  | dial => "DIAL_ERROR"
  | stream => "STREAM_ERROR"
  | cancelled => "CANCELLED"

/-- Anything that can be raised. -/
inductive Failure where
  /-- Malformed configuration or TLS material. -/
  | config (message : String) (suggestion : Option String)
  /-- A connection to the target or the collector could not be established. -/
  | dial (message : String) (suggestion : Option String)
  /-- Opening, sending on or receiving from a stream failed. -/
  | stream (message : String)
  /-- A session saw that its scope was cancelled for the given reason. -/
  | cancelled (reason : Failure)
  /-- Another failure of the bridge. -/
  | bridge (code : FailureCode) (message : String) (suggestion : Option String)
  /-- An error raised outside the bridge, with the name of its class. -/
  | foreign (name message : String)
  /-- A raised value that is no error. -/
  | value (value : Json)
  /-- Something was raised, but no value given. -/
  | absent
deriving Inhabited

namespace Failure

/-- A plain error. -/
def error (message : String) : Failure := foreign "Error" message

def message : Failure → String
  | config message _ | dial message _ | stream message | bridge _ message _
  | foreign _ message => message
  | cancelled absent => "session cancelled: scope closed"
  | cancelled reason => "session cancelled: " ++ reason.message
  | value v => v.display
  | absent => "undefined"

/-- The code of a failure of the bridge itself. -/
def code? : Failure → Option FailureCode
  | config _ _ => some .config
  | dial _ _ => some .dial
  | stream _ => some .stream
  | cancelled _ => some .cancelled
  | bridge code _ _ => some code
  | _ => none

/-- What the operator may try. -/
def suggestion? : Failure → Option String
  | config _ suggestion | dial _ suggestion | bridge _ _ suggestion => suggestion
  | _ => none

/-- The class of a failure; a raised value has none. -/
def className? : Failure → Option String
  | config _ _ => some "ConfigError"
  | dial _ _ => some "DialError"
  | stream _ => some "StreamError"
  | cancelled _ => some "CancellationError"
  | bridge _ _ _ => some "BridgeError"
  | foreign name _ => some name
  | value _ | absent => none

def isCancelled : Failure → Bool
  | cancelled _ => true
  | _ => false

/-- The reason of a cancellation that gives none. -/
def defaultAbort : Failure := error "This operation was aborted"

/-- The reason a scope keeps when it is aborted with the given one. -/
def abortReason : Failure → Failure
  | absent => defaultAbort
  | reason => reason

/-- A failing stream of a cancelled scope has been cancelled; any other has failed. -/
def ofStream (aborted : Option Failure) (message : String) : Failure :=
  match aborted with
  | some reason => cancelled reason
  | none => stream message

end Failure

end TelemetryBridge
