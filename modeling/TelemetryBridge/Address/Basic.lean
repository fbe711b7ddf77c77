import TelemetryBridge.Address.Ip
import TelemetryBridge.Failure

/-!
# Addresses

The target and the collector are named by `host:port`, `[ipv6]:port`, or a target with a scheme. The
collector's address may have the name of a network instance before its first slash.
-/

namespace TelemetryBridge

/-- Why an address is refused. Each cause carries the address as it was given. -/
inductive AddressError where
  | missing (peer : String)
  | notHostPort (peer address : String)
  | badIPv6 (peer address : String)
  | badPort (peer address : String)
  | badVrf (address : String)
  | notIP (address : String)
deriving DecidableEq

def AddressError.message : AddressError → String
  | missing peer => peer ++ " address is required"
  | notHostPort peer address =>
    peer ++ " address \"" ++ address ++ "\" must be in the form host:port"
  | badIPv6 peer address => peer ++ " address \"" ++ address ++ "\" has an invalid IPv6 literal"
  | badPort peer address => peer ++ " address \"" ++ address ++ "\" has an invalid port"
  | badVrf address => "collector address \"" ++ address ++ "\" has an invalid VRF name"
  | notIP address => "source address \"" ++ address ++ "\" must be an IP address"

def AddressError.toFailure (e : AddressError) : Failure := .config e.message none

namespace Address

def isSchemeChar (c : Char) : Bool :=
  c.isAlphanum || c == '+' || c == '.' || c == '-'

def hasScheme : List Char → Bool
  | [] => false
  | c :: cs => c.isAlpha && "://".toList.isPrefixOf (cs.dropWhile isSchemeChar)

def isUnix (cs : List Char) : Bool := "unix:".toList.isPrefixOf cs

def isHostChar (c : Char) : Bool :=
  !(c == ':' || c == '[' || c == ']' || Text.isBlank c)

def portDigits? : List Char → Option (List Char)
  | ':' :: digits => if digits ≠ [] ∧ digits.all Char.isDigit then some digits else none
  | _ => none

/-- A host and the digits of its port. The host is `some` for an IPv6 literal in brackets. -/
def hostPort? (cs : List Char) : Option (Option (List Char) × List Char) :=
  match cs with
  | '[' :: rest =>
    match rest.takeWhile (· != ']'), rest.dropWhile (· != ']') with
    | [], _ | _, [] => none
    | literal, _ :: tail => (portDigits? tail).map fun digits => (some literal, digits)
  | _ =>
    match cs.takeWhile isHostChar with
    | [] => none
    | _ => (portDigits? (cs.dropWhile isHostChar)).map fun digits => (none, digits)

/-- The number that the digits of a port are read as. -/
def portNumber (digits : List Char) : Number :=
  Number.ofDecimal false (Number.ofDigits digits) 0

/-- The address without surrounding blanks, if it has a form the bridge can dial. -/
def validate (address peer : String) : Except AddressError String :=
  let trimmed := Text.trim address
  let cs := trimmed.toList
  if cs = [] then .error (.missing peer)
  else if hasScheme cs || isUnix cs then .ok trimmed
  else
    match hostPort? cs with
    | none => .error (.notHostPort peer address)
    | some (literal, digits) =>
      if literal.any (fun l => !isIPv6 l) then .error (.badIPv6 peer address)
      else
        let port := portNumber digits
        if Number.lt port 1 || Number.lt 65535 port then .error (.badPort peer address)
        else .ok trimmed

/-- A collector: the network instance named before the address, if any, and the address. -/
structure Collector where
  vrf : Option String
  address : String
deriving DecidableEq

def containsSchemeMark : List Char → Bool
  | [] => false
  | c :: cs => "://".toList.isPrefixOf (c :: cs) || containsSchemeMark cs

/-- Reads `[<vrf-name>/]address`. A slash inside a target with a scheme names no instance. -/
def parseCollector (value : String) : Except AddressError Collector := do
  let trimmed := Text.trim value
  let cs := trimmed.toList
  if !cs.contains '/' || isUnix cs || containsSchemeMark cs then
    return ⟨none, ← validate trimmed "collector"⟩
  else
    let vrf := cs.takeWhile (· != '/')
    if vrf = [] ∨ vrf.any Text.isBlank then .error (.badVrf value)
    else
      let rest := (cs.dropWhile (· != '/')).tail
      return ⟨some (.ofList vrf), ← validate (.ofList rest) "collector"⟩

/-- The source address without surrounding blanks; it must be an IP literal. -/
def validateSource (value : String) : Except AddressError String :=
  let trimmed := Text.trim value
  if isIP trimmed.toList then .ok trimmed else .error (.notIP value)

end Address

end TelemetryBridge
