import TelemetryBridge.Pki.Armor
import TelemetryBridge.Pki.Curve
import TelemetryBridge.Pki.Der

/-!
# Certificates

Of what a certificate is made, how it is found in a file, and the point on the curve that its public
key is.
-/

namespace TelemetryBridge.X509

open Der (Shape Component Value)

/-! ## Shapes -/

def field (shape : Shape) : Component Shape := { shape }

/-- A field that may be absent. -/
def optional (shape : Shape) : Component Shape := { shape, optional := true }

/-- A field that may be absent, under a tag in place of its own. -/
def implicit (number : Nat) (shape : Shape) : Component Shape :=
  { shape, tagging := .implicit number, optional := true }

/-- A field that may be absent, inside an element with a tag. -/
def explicit (number : Nat) (shape : Shape) : Component Shape :=
  { shape, tagging := .explicit number, optional := true }

def integer : Shape := .ofType Der.integer
def bitString : Shape := .ofType Der.bitString
def octetString : Shape := .ofType Der.octetString
def identifier : Shape := .ofType Der.identifier

/-- An algorithm, perhaps with parameters. -/
def algorithm : Shape := .sequence [field identifier, optional .any]

/-- The types of the values in names. -/
def nameTypes : List Nat := [3, 7, 8, 9, 11, 12, 13, 14, 15, 16, 18, 19, 20, 22, 28, 29, 30]

/-- A name: sets of attributes, each an identifier with a value. -/
def name : Shape :=
  .list Der.sequence <| .list Der.set <|
    .sequence [field identifier, field (.oneOf nameTypes)]

def time : Shape := .oneOf [Der.utcTime, Der.generalizedTime]

/-- An extension: an identifier, perhaps whether it is critical, and its value. -/
def extension : Shape :=
  .sequence [field identifier, optional (.ofType Der.boolean), field octetString]

def publicKey : Shape := .sequence [field algorithm, field bitString]

/-- What is signed: perhaps a version, a serial number, an algorithm, the issuer, a period, the
subject, the key, and perhaps identifiers and extensions. The key is read apart. -/
def body : Shape :=
  .sequence [explicit 0 integer, field integer, field algorithm, field name,
    field (.sequence [field time, field time]), field name, field (.kept publicKey),
    implicit 1 bitString, implicit 2 bitString, explicit 3 (.list Der.sequence extension)]

/-- A certificate: what is signed, an algorithm and the signature. -/
def certificate : Shape := .sequence [field body, field algorithm, field bitString]

/-- What may follow a certificate in an armored block: for what it is trusted and for what not, a
name, an identifier, and algorithms. -/
def trust : Shape :=
  .sequence [optional (.list Der.sequence identifier), implicit 0 (.list Der.sequence identifier),
    optional (.ofType Der.utf8String), optional octetString,
    implicit 1 (.list Der.sequence algorithm)]

/-! ## Values -/

/-- The bytes of a bit string. Bits that do not count are zero. -/
def bits : Bytes → Bytes
  | [] => []
  | unused :: bytes =>
    let step := Nat.pow 2 unused.toNat
    bytes.dropLast ++ bytes.getLast?.toList.map fun b => UInt8.ofNat (b.toNat / step * step)

def isUtf8 (bytes : Bytes) : Bool := Text.utf8 (Text.decode bytes) == bytes

/-- Numbers of so many bytes each. -/
def numbers (size : Nat) (bytes : Bytes) : List Nat :=
  match bytes with
  | [] => []
  | b :: bytes =>
    Curve.Point.number (b :: bytes.take (size - 1)) :: numbers size (bytes.drop (size - 1))
termination_by bytes.length
decreasing_by
  simp only [List.length_drop, List.length_cons]
  omega

/-- Whether a value of a name can be read as a text, if its type is one of texts. -/
def isText (type : Nat) (bytes : Bytes) : Bool :=
  if type = Der.utf8String then isUtf8 bytes
  else if type = Der.bmpString then (numbers 2 bytes).all Nat.isValidChar
  else if type = Der.universalString then (numbers 4 bytes).all Nat.isValidChar
  else true

/-- Whether all values of a name can be read. -/
def isName : Value → Bool
  | .items sets => sets.all fun
    | .items attributes => attributes.all fun
      | .fields [_, some (.content (.universal type) bytes)] => isText type bytes
      | _ => false
    | _ => false
  | _ => false

/-- The identifier of keys on elliptic curves. -/
def curveKeys : Bytes := [0x2A, 0x86, 0x48, 0xCE, 0x3D, 0x02, 0x01]

def curve : Bytes := [0x2A, 0x86, 0x48, 0xCE, 0x3D, 0x03, 0x01, 0x07]

/-- Whether an algorithm is that of keys on the curve. -/
def isCurveAlgorithm : Value → Bool
  | .fields [some (.content _ key), some (.content (.universal type) parameter)] =>
    key == curveKeys && type == Der.identifier && parameter == curve
  | _ => false

/-- The point that a public key is. -/
def point? (bytes : Bytes) : Option Curve.Point := do
  let (value, _) ← Der.read? publicKey (← Der.element? bytes)
  match value with
  | .fields [some algorithm, some (.content _ content)] =>
    if isCurveAlgorithm algorithm then Curve.Point.ofBytes? (bits content) else none
  | _ => none

/-- A certificate by its public key, as far as it is a point of the curve. -/
structure Certificate where
  key : Option Curve.Point

/-- Reads a certificate; the second part holds the bytes behind it. -/
def Certificate.read? (bytes : Bytes) : Option (Certificate × Bytes) := do
  let (value, rest) ← Der.read? certificate bytes
  match value with
  | .fields [some (.fields (_ :: _ :: _ :: some issuer :: _ :: some subject ::
      some (.content _ key) :: _)), _, _] =>
    if isName issuer && isName subject then return (⟨point? key⟩, rest) else none
  | _ => none

def Certificate.ofBlock? (block : Armor.Block) : Option Certificate := do
  let (certificate, rest) ← Certificate.read? block.data
  if block.header ≠ [] then none
  else if rest = [] then return certificate
  else
    let _ ← Der.read? trust rest
    return certificate

/-- A label that a certificate may have. -/
def isCertificateLabel (label : Bytes) : Bool :=
  label == Armor.ascii "CERTIFICATE" || label == Armor.ascii "X509 CERTIFICATE" ||
    label == Armor.ascii "TRUSTED CERTIFICATE"

/-- The certificate of a file: its first armored one, or else the one that the bytes themselves are.
-/
def Certificate.ofFile? (bytes : Bytes) : Option Certificate :=
  ((Armor.find? isCertificateLabel (Armor.lines bytes)).bind Certificate.ofBlock?) <|>
    (Certificate.read? bytes).map Prod.fst

end TelemetryBridge.X509
