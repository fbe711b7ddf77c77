import TelemetryBridge.Config.Basic
import TelemetryBridge.Failure
import TelemetryBridge.Pki.PrivateKey

/-!
# Credentials

The TLS settings towards the collector, made from local files only. What the operator asks for is
never weakened: settings that cannot be fulfilled are refused.
-/

namespace TelemetryBridge

/-- A certificate with its private key, as the files give them. -/
structure KeyPair where
  certificate : Bytes
  key : Bytes

/-- How the connection to the collector is secured. -/
inductive Credentials where
  | plaintext
  /-- The trusted roots are those of the system unless some are given. -/
  | tls (skipVerify : Bool) (roots : Option Bytes) (client : Option KeyPair)

/-- Why settings are refused. -/
inductive CredentialFault where
  | incompletePair
  | unreadable (what file reason : String)
  | noCertificates (file : String)
  | badPair (certFile keyFile reason : String)
  | mismatch (certFile keyFile : String)

namespace CredentialFault

def message : CredentialFault → String
  | incompletePair => "please provide both --collector-certfile and --collector-keyfile"
  | unreadable what file reason => "cannot read " ++ what ++ " " ++ file ++ ": " ++ reason
  | noCertificates file => "credentials: failed to append certificates from " ++ file
  | badPair certFile keyFile reason =>
    "cannot load key pair " ++ certFile ++ ", " ++ keyFile ++ ": " ++ reason
  | mismatch certFile keyFile =>
    "private key " ++ keyFile ++ " does not match certificate " ++ certFile

def toFailure (fault : CredentialFault) : Failure := .config fault.message none

end CredentialFault

namespace Credentials

/-- What reading a file gives. -/
abbrev FileReader := String → Except String Bytes

/-- A file that is named by the empty text is not set. -/
def named? (file : Option String) : Option String := file.filter (· ≠ "")

/-- The certificates of a bundle: the blocks of the text that hold one, in order, each followed by a
line break. -/
def bundle (pki : Pki) (text : List Char) : List (List Char) :=
  (Armor.certificateBlocks text).filter fun block =>
    pki.isCertificate (Text.utf8 (.ofList block))

/-- The reason given for files that hold no certificate or no key. -/
def badPairReason : String := "no certificate with a private key can be read"

section

variable {m : Type → Type} [Monad m]

def readMaterialIn (read : String → m (Except String Bytes)) (what file : String) :
    ExceptT CredentialFault m Bytes :=
  .mk (Except.mapError (.unreadable what file) <$> read file)

/-- Loads a bundle, which must hold a certificate. -/
def loadBundleIn (pki : Pki) (read : String → m (Except String Bytes)) (file : String) :
    ExceptT CredentialFault m Bytes := do
  let bytes ← readMaterialIn read "CA file" file
  match bundle pki (Text.decodeChars bytes) with
  | [] => throw (.noCertificates file)
  | blocks => return Text.utf8 (.ofList (blocks.flatMap fun block => block ++ ['\n']))

def loadPairIn (pki : Pki) (read : String → m (Except String Bytes)) (certFile keyFile : String) :
    ExceptT CredentialFault m KeyPair := do
  let certificate ← readMaterialIn read "certificate file" certFile
  let key ← readMaterialIn read "key file" keyFile
  match pki.matching? certificate key with
  | none => throw (.badPair certFile keyFile badPairReason)
  | some false => throw (.mismatch certFile keyFile)
  | some true => return ⟨certificate, key⟩

/-- The roots to trust, unless any certificate is accepted. -/
def rootsIn (pki : Pki) (read : String → m (Except String Bytes)) (tls : TlsConfig) :
    ExceptT CredentialFault m (Option Bytes) :=
  match tls.skipVerify, named? tls.caFile with
  | false, some file => some <$> loadBundleIn pki read file
  | _, _ => pure none

def clientIn (pki : Pki) (read : String → m (Except String Bytes)) (tls : TlsConfig) :
    ExceptT CredentialFault m (Option KeyPair) :=
  match named? tls.certFile, named? tls.keyFile with
  | some certFile, some keyFile => some <$> loadPairIn pki read certFile keyFile
  | _, _ => pure none

/-- The credentials that the settings ask for. -/
def buildIn (pki : Pki) (read : String → m (Except String Bytes)) (tls : TlsConfig) :
    ExceptT CredentialFault m Credentials := do
  if !tls.enabled then return .plaintext
  if (named? tls.certFile).isSome && (named? tls.keyFile).isNone then throw .incompletePair
  let roots ← rootsIn pki read tls
  let client ← clientIn pki read tls
  return .tls tls.skipVerify roots client

end

def loadBundle (pki : Pki) (read : FileReader) (file : String) : Except CredentialFault Bytes :=
  loadBundleIn (m := Id) pki read file

def loadPair (pki : Pki) (read : FileReader) (certFile keyFile : String) :
    Except CredentialFault KeyPair :=
  loadPairIn (m := Id) pki read certFile keyFile

def build (pki : Pki) (read : FileReader) (tls : TlsConfig) : Except CredentialFault Credentials :=
  buildIn (m := Id) pki read tls

/-- Whether the connection is secured at all. -/
def isSecure : Credentials → Bool
  | plaintext => false
  | tls .. => true

def describe : Credentials → String
  | plaintext => "plaintext"
  | tls skipVerify roots client =>
    let trust :=
      if skipVerify then "skip-verify" else if roots.isSome then "custom-ca" else "system-ca"
    ", ".intercalate (["tls", trust] ++ if client.isSome then ["client-cert"] else [])

end Credentials

end TelemetryBridge
