import TelemetryBridge.Config.Basic
import TelemetryBridge.Json.Basic

/-!
# The schema of configurations

A JSON value is read as a configuration, with defaults for what it leaves out; otherwise every
reason why it is none is listed, in the order of the schema. Unknown members are ignored.
-/

namespace TelemetryBridge

/-- What is wrong with a member. -/
inductive IssueKind where
  | wrongType (expected received : String)
  | negative
  | notPositive
  | notAllowed (received : String)
deriving DecidableEq

/-- What is wrong, and where. -/
structure Issue where
  place : List String
  kind : IssueKind
deriving DecidableEq

/-- The names of the log levels as they are listed to the operator. -/
def LogLevel.listed : String :=
  " | ".intercalate (LogLevel.all.map fun level => "'" ++ level.name ++ "'")

def IssueKind.message : IssueKind → String
  | wrongType expected received => "Expected " ++ expected ++ ", received " ++ received
  | negative => "Number must be greater than or equal to 0"
  | notPositive => "Number must be greater than 0"
  | notAllowed received =>
    "Invalid enum value. Expected " ++ LogLevel.listed ++ ", received '" ++ received ++ "'"

/-- A problem with its place. -/
def Issue.message (issue : Issue) : String :=
  (if issue.place = [] then "(root)" else ".".intercalate issue.place) ++ ": " ++
    issue.kind.message

def Json.typeName : Json → String
  | null => "null"
  | bool _ => "boolean"
  | number _ => "number"
  | text _ => "string"
  | array _ => "array"
  | object _ => "object"

/-- A value, or all that is wrong. -/
abbrev Checked (α : Type) := Except (List Issue) α

/-- Both values, or all that is wrong with either. -/
def Checked.and {α β : Type} (a : Checked α) (b : Checked β) : Checked (α × β) :=
  match a, b with
  | .ok a, .ok b => .ok (a, b)
  | .ok _, .error issues => .error issues
  | .error issues, .ok _ => .error issues
  | .error issues, .error more => .error (issues ++ more)

namespace Schema

/-- How the value of a member is read at its place. -/
abbrev Rule (α : Type) := List String → Json → Checked α

def mismatch {α : Type} (expected : String) (place : List String) (json : Json) : Checked α :=
  .error [⟨place, .wrongType expected json.typeName⟩]

def text : Rule String
  | _, .text s => .ok s
  | place, json => mismatch "string" place json

def bool : Rule Bool
  | _, .bool b => .ok b
  | place, json => mismatch "boolean" place json

/-- A whole number that is not negative, or positive if asked for. -/
def integer (positive : Bool) : Rule Number
  | place, .number n =>
    let whole := if n.isInteger then [] else [⟨place, .wrongType "integer" "float"⟩]
    let range :=
      if positive then (if Number.lt 0 n then [] else [⟨place, .notPositive⟩])
      else (if Number.le 0 n then [] else [⟨place, .negative⟩])
    if whole ++ range = [] then .ok n else .error (whole ++ range)
  | place, json => mismatch "number" place json

/-- The name of a log level. -/
def level : Rule LogLevel
  | place, .text s =>
    match LogLevel.ofName? s with
    | some level => .ok level
    | none => .error [⟨place, .notAllowed s⟩]
  | place, json => mismatch LogLevel.listed place json

/-- The items of a list, read from the given position on. -/
def items {α : Type} (rule : Rule α) (place : List String) : Nat → List Json → Checked (List α)
  | _, [] => .ok []
  | n, json :: rest =>
    (Checked.and (rule (place ++ [toString n]) json) (items rule place (n + 1) rest)).map
      fun (a, as) => a :: as

def list {α : Type} (rule : Rule α) : Rule (List α)
  | place, .array elements => items rule place 0 elements
  | place, json => mismatch "array" place json

def object {α : Type} (rule : List String → List (String × Json) → Checked α) : Rule α
  | place, .object members => rule place members
  | place, json => mismatch "object" place json

/-- A member that has a default. -/
def withDefault {α : Type} (rule : Rule α) (default : α) (name : String) (place : List String)
    (members : List (String × Json)) : Checked α :=
  match Json.member? name members with
  | none => .ok default
  | some json => rule (place ++ [name]) json

/-- A member that may be left out. -/
def optional {α : Type} (rule : Rule α) (name : String) (place : List String)
    (members : List (String × Json)) : Checked (Option α) :=
  match Json.member? name members with
  | none => .ok none
  | some json => (rule (place ++ [name]) json).map some

def tls : Rule TlsConfig := object fun place members =>
  (((withDefault bool true "enabled" place members).and
    (withDefault bool false "skipVerify" place members)).and
    ((optional text "certFile" place members).and
      ((optional text "keyFile" place members).and (optional text "caFile" place members)))).map
    fun ((enabled, skipVerify), certFile, keyFile, caFile) =>
      { enabled, skipVerify, certFile, keyFile, caFile }

def target : Rule TargetConfig := object fun place members =>
  (((withDefault text "127.0.0.1:6030" "address" place members).and
    (withDefault text "" "value" place members)).and
    ((optional text "username" place members).and (optional text "password" place members))).map
    fun ((address, value), username, password) => { address, value, username, password }

def collector : Rule CollectorConfig := object fun place members =>
  ((withDefault text "" "address" place members).and
    ((optional text "sourceAddress" place members).and
      (withDefault tls {} "tls" place members))).map
    fun (address, sourceAddress, tls) => { address, sourceAddress, tls }

def retry : Rule RetryConfig := object fun place members =>
  ((withDefault (integer false) 0 "initialDelayMs" place members).and
    (withDefault (integer true) 30000 "maxDelayMs" place members)).map
    fun (initialDelayMs, maxDelayMs) => { initialDelayMs, maxDelayMs }

def logging : Rule LoggingConfig := object fun place members =>
  ((withDefault level .info "level" place members).and
    ((optional text "filePath" place members).and (optional level "fileLevel" place members))).map
    fun (level, filePath, fileLevel) => { level, filePath, fileLevel }

def config : Rule Config := object fun place members =>
  ((withDefault target {} "target" place members).and
    ((withDefault (list text) [] "subscriptions" place members).and
      ((withDefault collector {} "collector" place members).and
        ((withDefault retry {} "retry" place members).and
          ((withDefault (integer false) 0 "dialTimeoutMs" place members).and
            (withDefault logging {} "logging" place members)))))).map
    fun (target, subscriptions, collector, retry, dialTimeoutMs, logging) =>
      { target, subscriptions, collector, retry, dialTimeoutMs, logging }

end Schema

namespace Config

def ofJson (json : Json) : Checked Config := Schema.config [] json

/-! ## Writing -/

/-- An optional text as a member, left out when it is absent. -/
def optionalText (name : String) (value : Option String) : List (String × Json) :=
  (value.map fun s => (name, Json.text s)).toList

def tlsJson (tls : TlsConfig) : Json :=
  .object <| [("enabled", .bool tls.enabled), ("skipVerify", .bool tls.skipVerify)] ++
    optionalText "certFile" tls.certFile ++ optionalText "keyFile" tls.keyFile ++
    optionalText "caFile" tls.caFile

def targetJson (target : TargetConfig) : Json :=
  .object <| [("address", .text target.address), ("value", .text target.value)] ++
    optionalText "username" target.username ++ optionalText "password" target.password

def collectorJson (collector : CollectorConfig) : Json :=
  .object <| ("address", .text collector.address) ::
    optionalText "sourceAddress" collector.sourceAddress ++ [("tls", tlsJson collector.tls)]

def retryJson (retry : RetryConfig) : Json :=
  .object [("initialDelayMs", .number retry.initialDelayMs),
    ("maxDelayMs", .number retry.maxDelayMs)]

def loggingJson (logging : LoggingConfig) : Json :=
  .object <| ("level", .text logging.level.name) :: optionalText "filePath" logging.filePath ++
    optionalText "fileLevel" (logging.fileLevel.map LogLevel.name)

def members (config : Config) : List (String × Json) :=
  [("target", targetJson config.target),
    ("subscriptions", .array (config.subscriptions.map .text)),
    ("collector", collectorJson config.collector), ("retry", retryJson config.retry),
    ("dialTimeoutMs", .number config.dialTimeoutMs), ("logging", loggingJson config.logging)]

/-- A configuration as JSON; what is absent is left out. -/
def toJson (config : Config) : Json := .object config.members

end Config

end TelemetryBridge
