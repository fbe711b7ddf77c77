import TelemetryBridge.Config.Schema
import TelemetryBridge.FilePath
import TelemetryBridge.Json.Reader
import TelemetryBridge.Path.Parser

/-!
# Loading a configuration

The file named by a flag or by the environment is read, checked against the schema, overridden by
flags, checked again, and resolved. Every failure on the way is a configuration failure.
-/

namespace TelemetryBridge

/-- Why no configuration could be loaded. -/
inductive ConfigFault where
  | unreadable (file reason : String)
  | notJson (file reason : String)
  | invalid (source : String) (issues : List Issue)
  | badLogLevel (value : String)
  | noSubscriptions
  | badPath (path : String) (reason : PathFault)
  | badAddress (reason : AddressError)
  | noCollector

namespace ConfigFault

def message : ConfigFault → String
  | unreadable file reason => "Cannot read config file " ++ file ++ ": " ++ reason
  | notJson file reason => "Config file " ++ file ++ " is not valid JSON: " ++ reason
  | invalid source issues =>
    "Invalid " ++ source ++ ": " ++ "; ".intercalate (issues.map Issue.message)
  | badLogLevel value => "Invalid log level \"" ++ value ++ "\""
  | noSubscriptions => "No subscription paths configured"
  | badPath path reason =>
    "Invalid subscription path \"" ++ path ++ "\": " ++ reason.message
  | badAddress reason => reason.message
  | noCollector => "collector address is required"

/-- What the operator may try. -/
def suggestion? : ConfigFault → Option String
  | badLogLevel _ => some ("Use one of: " ++ ", ".intercalate (LogLevel.all.map LogLevel.name))
  | noSubscriptions => some "Pass --subscribe <path> at least once"
  | noCollector => some "Pass --collector-addr [<vrf-name>/]address:port"
  | _ => none

def toFailure (fault : ConfigFault) : Failure := .config fault.message fault.suggestion?

end ConfigFault

namespace Host

/-- A path as the operator writes it: without blanks at its ends, `~` for the home directory, and
relative ones seen from the base directory, or else from the working directory. A blank path is
none. -/
def resolvePath (host : Host) (base : Option String) (value : String) : Option String :=
  match Text.trimChars value.toList with
  | [] => none
  | '~' :: rest => some (.ofList (FilePath.join host.home.toList rest))
  | path =>
    if FilePath.isAbsolute path then some (.ofList (FilePath.normalize path))
    else
      let cwd := host.cwd.toList
      some (.ofList (FilePath.resolve cwd ((base.map String.toList).getD cwd) path))

/-- The configuration file: the one given, or else the one of the environment. -/
def configPath (host : Host) (given : Option String) : Option String :=
  match (given.map Text.trim).filter (· ≠ "") with
  | some path => host.resolvePath none path
  | none => host.configVariable.bind (host.resolvePath none)

end Host

namespace Config

/-- The reason given for a file that is not JSON. -/
def notJsonReason : String := "no JSON value can be read"

def readFile (host : Host) (file : String) : Except ConfigFault Json :=
  match host.read file with
  | .error reason => .error (.unreadable file reason)
  | .ok bytes =>
    match Json.parse? (Text.decode bytes) with
    | some json => .ok json
    | none => .error (.notJson file notJsonReason)

/-- Checks a value against the schema; a fault names where the value came from. -/
def check (source : String) (json : Json) : Except ConfigFault Config :=
  (ofJson json).mapError (.invalid source)

/-- The log level given by a flag. -/
def flagLevel : Option String → Except ConfigFault (Option LogLevel)
  | none => .ok none
  | some value =>
    match LogLevel.ofName? value with
    | some level => .ok (some level)
    | none => .error (.badLogLevel value)

/-- Replaces what flags give. File paths of flags are seen from the working directory. -/
def override (host : Host) (base : Config) (o : Overrides) : Except ConfigFault Config := do
  let flagPath (value : Option String) : Option String := value.bind (host.resolvePath none)
  let level ← flagLevel o.logLevel
  return {
    target := {
      address := o.targetAddr.getD base.target.address
      value := o.targetValue.getD base.target.value
      username := o.username <|> base.target.username
      password := o.password <|> base.target.password }
    subscriptions := if o.subscribe = [] then base.subscriptions else o.subscribe
    collector := {
      address := o.collectorAddr.getD base.collector.address
      sourceAddress := o.sourceAddr <|> base.collector.sourceAddress
      tls := {
        enabled := o.collectorTls.getD base.collector.tls.enabled
        skipVerify := o.collectorTlsSkipVerify.getD base.collector.tls.skipVerify
        certFile := flagPath o.collectorCertFile <|> base.collector.tls.certFile
        keyFile := flagPath o.collectorKeyFile <|> base.collector.tls.keyFile
        caFile := flagPath o.collectorCaFile <|> base.collector.tls.caFile } }
    retry := {
      initialDelayMs := o.retryDelay.getD base.retry.initialDelayMs
      maxDelayMs := o.retryMaxDelay.getD base.retry.maxDelayMs }
    dialTimeoutMs := o.dialTimeout.getD base.dialTimeoutMs
    logging := {
      level := level.getD base.logging.level
      filePath := flagPath o.logFile <|> base.logging.filePath
      fileLevel := base.logging.fileLevel } }

def subscriptionPath (text : String) : Except ConfigFault Path :=
  (Path.parse text).mapError (.badPath text)

/-- Works out paths and addresses. Relative file paths are seen from the base directory. -/
def resolve (host : Host) (base : Option String) (config : Config) :
    Except ConfigFault Settings := do
  if config.subscriptions = [] then throw .noSubscriptions
  let paths ← config.subscriptions.mapM subscriptionPath
  let targetAddress ← (Address.validate config.target.address "target").mapError .badAddress
  if Text.trim config.collector.address = "" then throw .noCollector
  let collector ← (Address.parseCollector config.collector.address).mapError .badAddress
  let sourceAddress ← match config.collector.sourceAddress.filter (Text.trim · ≠ "") with
    | some value => ((Address.validateSource value).mapError .badAddress).map some
    | none => pure none
  let file (value : Option String) : Option String := value.bind (host.resolvePath base)
  let tls := config.collector.tls
  return {
    config := { config with
      collector := { config.collector with
        tls := { tls with
          certFile := file tls.certFile
          keyFile := file tls.keyFile
          caFile := file tls.caFile } } }
    resolved := {
      paths, collector, targetAddress, sourceAddress
      logFilePath := file config.logging.filePath } }

/-- Loads the configuration of a file, if one is named, with flags over it. -/
def load (host : Host) (given : Option String) (overrides : Overrides) :
    Except ConfigFault Settings := do
  let file := host.configPath given
  let json ← match file with
    | some file => readFile host file
    | none => pure (.object [])
  let base ← check (file.getD "configuration") json
  let merged ← override host base overrides
  let merged ← check "command line" merged.toJson
  resolve host (file.map fun f => .ofList (FilePath.directory f.toList)) merged

end Config

end TelemetryBridge
