import TelemetryBridge.Config.Basic

/-!
# Flags

The flags of the command line, how they are spelled, and what each of them sets.
-/

namespace TelemetryBridge

/-- What the command line asks for: a configuration file, values that override it, and how failures
are shown. -/
structure CommandOptions where
  configPath : Option String := none
  verbose : Bool := false
  overrides : Overrides := {}

inductive Flag where
  | version
  | config
  | targetAddr
  | collectorAddr
  | targetValue
  | subscribe
  | username
  | password
  | sourceAddr
  | collectorCertFile
  | collectorKeyFile
  | collectorCaFile
  | collectorTls
  | noCollectorTls
  | collectorTlsSkipVerify
  | retryDelay
  | retryMaxDelay
  | dialTimeout
  | logLevel
  | logFile
  | verbose
deriving DecidableEq

namespace Flag

def all : List Flag :=
  [version, config, targetAddr, collectorAddr, targetValue, subscribe, username, password,
    sourceAddr, collectorCertFile, collectorKeyFile, collectorCaFile, collectorTls,
    noCollectorTls, collectorTlsSkipVerify, retryDelay, retryMaxDelay, dialTimeout, logLevel,
    logFile, verbose]

/-- The long name, without its hyphens. -/
def long : Flag → String
  | version => "version"
  | config => "config"
  | targetAddr => "target-addr"
  | collectorAddr => "collector-addr"
  | targetValue => "target-value"
  | subscribe => "subscribe"
  | username => "username"
  | password => "password"
  | sourceAddr => "source-addr"
  | collectorCertFile => "collector-certfile"
  | collectorKeyFile => "collector-keyfile"
  | collectorCaFile => "collector-cafile"
  | collectorTls => "collector-tls"
  | noCollectorTls => "no-collector-tls"
  | collectorTlsSkipVerify => "collector-tls-skipverify"
  | retryDelay => "retry-delay"
  | retryMaxDelay => "retry-max-delay"
  | dialTimeout => "dial-timeout"
  | logLevel => "log-level"
  | logFile => "log-file"
  | verbose => "verbose"

/-- The short name, without its hyphen. -/
def short? : Flag → Option Char
  | version => some 'V'
  | config => some 'c'
  | _ => none

/-- The name of the operand; flags without one are switches. -/
def operand? : Flag → Option String
  | version | collectorTls | noCollectorTls | collectorTlsSkipVerify | verbose => none
  | config | subscribe | collectorCertFile | collectorKeyFile | collectorCaFile | logFile =>
    some "path"
  | targetAddr | collectorAddr | sourceAddr => some "addr"
  | targetValue => some "value"
  | username => some "name"
  | password => some "password"
  | retryDelay | retryMaxDelay | dialTimeout => some "ms"
  | logLevel => some "level"

def description : Flag → String
  | version => "output the version number"
  | config => "Path to a JSON config file (or set GNMI_DIALOUT_CONFIG)"
  | targetAddr => "address of the gNMI target (default: 127.0.0.1:6030)"
  | collectorAddr => "address of collector in the form of [<vrf-name>/]address:port"
  | targetValue => "value to use in the target field of the Subscribe"
  | subscribe => "path to subscribe to; repeat for more paths (default: [])"
  | username => "username to authenticate with target"
  | password => "password to authenticate with target"
  | sourceAddr => "addr to use as source in connection to collector (not applied yet)"
  | collectorCertFile => "path to TLS certificate file to authenticate with collector"
  | collectorKeyFile => "path to TLS key file to authenticate with collector"
  | collectorCaFile =>
    "path to TLS CA file to verify collector (leave empty to use host's root CA set)"
  | collectorTls => "use TLS in connection with collector (default)"
  | noCollectorTls => "use plaintext in connection with collector"
  | collectorTlsSkipVerify => "don't verify collector's certificate (insecure)"
  | retryDelay => "initial delay between retries; 0 retries immediately"
  | retryMaxDelay => "upper bound on the delay between retries"
  | dialTimeout => "wait this long for each connection at startup; 0 does not wait"
  | logLevel => "trace, debug, info, warn or error"
  | logFile => "also write logs to this file"
  | verbose => "Print stack traces for fatal errors"

def term (flag : Flag) : String :=
  (flag.short?.elim "" fun c => "-" ++ .ofList [c] ++ ", ") ++ "--" ++ flag.long ++
    flag.operand?.elim "" fun name => " <" ++ name ++ ">"

/-- The flag that a word spells in full. -/
def ofWord? (word : String) : Option Flag :=
  all.find? fun flag =>
    word == "--" ++ flag.long || flag.short?.any fun c => word == .ofList ['-', c]

/-- A whole number that is not negative. The blank text is zero. -/
def count? (value : String) : Option Number :=
  (Number.ofText? (Text.trimChars value.toList)).filter fun n => n.isInteger && Number.le 0 n

/-- Sets what the flag stands for to a value; switches take none. Nothing is set if the value is no
number where one is needed. A subscription is added to those before it. -/
def set? (flag : Flag) (value : String) (o : CommandOptions) : Option CommandOptions :=
  let v := o.overrides
  let withOverrides (v : Overrides) : Option CommandOptions := some { o with overrides := v }
  match flag with
  | version => some o
  | config => some { o with configPath := some value }
  | targetAddr => withOverrides { v with targetAddr := some value }
  | collectorAddr => withOverrides { v with collectorAddr := some value }
  | targetValue => withOverrides { v with targetValue := some value }
  | subscribe => withOverrides { v with subscribe := v.subscribe ++ [value] }
  | username => withOverrides { v with username := some value }
  | password => withOverrides { v with password := some value }
  | sourceAddr => withOverrides { v with sourceAddr := some value }
  | collectorCertFile => withOverrides { v with collectorCertFile := some value }
  | collectorKeyFile => withOverrides { v with collectorKeyFile := some value }
  | collectorCaFile => withOverrides { v with collectorCaFile := some value }
  | collectorTls => withOverrides { v with collectorTls := some true }
  | noCollectorTls => withOverrides { v with collectorTls := some false }
  | collectorTlsSkipVerify => withOverrides { v with collectorTlsSkipVerify := some true }
  | retryDelay => (count? value).bind fun n => withOverrides { v with retryDelay := some n }
  | retryMaxDelay => (count? value).bind fun n => withOverrides { v with retryMaxDelay := some n }
  | dialTimeout => (count? value).bind fun n => withOverrides { v with dialTimeout := some n }
  | logLevel => withOverrides { v with logLevel := some value }
  | logFile => withOverrides { v with logFile := some value }
  | verbose => some { o with verbose := true }

end Flag

end TelemetryBridge
