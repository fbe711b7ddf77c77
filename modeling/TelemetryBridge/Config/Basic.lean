import TelemetryBridge.Address.Basic
import TelemetryBridge.Path.Basic
import TelemetryBridge.Text.Utf8

/-!
# Configuration

What the operator sets: the target, the subscriptions, the collector, retries and logging. A file
gives a configuration, flags override it, and the outcome is resolved into paths and addresses.
-/

namespace TelemetryBridge

/-- How much is logged. -/
inductive LogLevel where
  | trace
  | debug
  | info
  | warn
  | error
deriving DecidableEq

namespace LogLevel

/-- All levels, the most talkative first. -/
def all : List LogLevel := [trace, debug, info, warn, error]

def name : LogLevel → String
  | trace => "trace"
  | debug => "debug"
  | info => "info"
  | warn => "warn"
  | error => "error"

def ofName? (s : String) : Option LogLevel := all.find? fun level => level.name == s

theorem ofName?_name (level : LogLevel) : ofName? level.name = some level := by
  cases level <;> decide

/-- The severity of the least severe records that a level lets pass. -/
def severity : LogLevel → Nat
  | trace => 10
  | debug => 20
  | info => 30
  | warn => 40
  | error => 50

end LogLevel

/-- TLS towards the collector. -/
structure TlsConfig where
  enabled : Bool := true
  /-- Accept any server certificate. -/
  skipVerify : Bool := false
  certFile : Option String := none
  keyFile : Option String := none
  caFile : Option String := none
deriving DecidableEq

/-- The device that is subscribed to. -/
structure TargetConfig where
  address : String := "127.0.0.1:6030"
  /-- The name that goes into the request. -/
  value : String := ""
  username : Option String := none
  password : Option String := none
deriving DecidableEq

/-- The collector that updates are published to. -/
structure CollectorConfig where
  address : String := ""
  sourceAddress : Option String := none
  tls : TlsConfig := {}
deriving DecidableEq

structure RetryConfig where
  initialDelayMs : Number := 0
  maxDelayMs : Number := 30000
deriving DecidableEq

structure LoggingConfig where
  level : LogLevel := .info
  filePath : Option String := none
  fileLevel : Option LogLevel := none
deriving DecidableEq

structure Config where
  target : TargetConfig := {}
  subscriptions : List String := []
  collector : CollectorConfig := {}
  retry : RetryConfig := {}
  dialTimeoutMs : Number := 0
  logging : LoggingConfig := {}
deriving DecidableEq

/-- What a configuration comes down to. -/
structure Resolved where
  paths : List Path
  collector : Address.Collector
  targetAddress : String
  sourceAddress : Option String
  logFilePath : Option String

/-- A configuration the bridge can start with. The paths of its TLS files are resolved. -/
structure Settings where
  config : Config
  resolved : Resolved

/-- What flags override. Their numbers are never NaN, as the command line refuses a text that is no
number. -/
structure Overrides where
  targetAddr : Option String := none
  targetValue : Option String := none
  subscribe : List String := []
  username : Option String := none
  password : Option String := none
  collectorAddr : Option String := none
  sourceAddr : Option String := none
  collectorTls : Option Bool := none
  collectorTlsSkipVerify : Option Bool := none
  collectorCertFile : Option String := none
  collectorKeyFile : Option String := none
  collectorCaFile : Option String := none
  retryDelay : Option Number := none
  retryMaxDelay : Option Number := none
  dialTimeout : Option Number := none
  logLevel : Option String := none
  logFile : Option String := none

/-- The surroundings of a process: directories, the configuration variable, and what reading a file
gives. -/
structure Host where
  cwd : String
  home : String
  configVariable : Option String
  read : String → Except String Bytes

end TelemetryBridge
