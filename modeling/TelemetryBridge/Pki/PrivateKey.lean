import TelemetryBridge.Pki.Certificate

/-!
# Private keys

Of what a private key on the curve is made, and how it is found in a file. A key is known by the
point that its public key is. A private key belongs to a certificate when both have the same point.
-/

namespace TelemetryBridge

/-- What is asked about the contents of certificate and key files. -/
structure Pki where
  /-- Whether an armored block holds a certificate. -/
  isCertificate : Bytes → Bool
  /-- Whether the key of the second file belongs to the certificate of the first, if both can be
  read. -/
  matching? : Bytes → Bytes → Option Bool

namespace X509

open Der (Shape)

/-! ## Shapes -/

/-- An integer of at most four bytes. An empty one counts as zero. -/
def isSmall (content : Bytes) : Bool :=
  content.isEmpty || (Der.isInteger content && content.length ≤ 4)

/-- A private key of a curve: the number of the format, a secret, perhaps the curve, and perhaps the
public key. -/
def curveKey : Shape :=
  .sequence [field (.plain Der.integer isSmall), field octetString, explicit 0 identifier,
    explicit 1 bitString]

/-- A private key of any algorithm: the number of the format, the algorithm, the key, and perhaps
attributes and a public key. -/
def privateKey : Shape :=
  .sequence [field integer, field algorithm, field octetString,
    implicit 0 (.list Der.set (.sequence [field identifier, field (.list Der.set .any)])),
    implicit 1 bitString]

/-- An encrypted private key: the algorithm and the key. -/
def encryptedKey : Shape := .sequence [field algorithm, field octetString]

/-! ## Values -/

/-- The point of a private key of a curve, which may have been named before. -/
def curvePoint? (named : Bool) (bytes : Bytes) : Option Curve.Point := do
  let (value, _) ← Der.read? curveKey bytes
  match value with
  | .fields [_, some (.content _ secret), parameters, key] =>
    let isCurve := match parameters with
      | some (.content _ name) => name == curve
      | _ => named
    if !isCurve then none
    else
      match key with
      | some (.content _ content) => Curve.Point.ofBytes? (bits content)
      | _ => some (Curve.Point.base.multiple (Curve.Point.number secret))
  | _ => none

/-- The point of a private key that names its algorithm. The first format has no place for a public
key. -/
def keyPoint? (bytes : Bytes) : Option Curve.Point := do
  let (value, _) ← Der.read? privateKey bytes
  match value with
  | .fields [some (.content _ format), some algorithm, some (.content _ key), _, extra] =>
    if (format = [0] ∧ extra.isNone ∨ format = [1]) ∧ isCurveAlgorithm algorithm then
      curvePoint? true key
    else none
  | _ => none

/-- The point of a private key that a label says to be one of a curve, in either form. -/
def curveFilePoint? (bytes : Bytes) : Option Curve.Point :=
  curvePoint? false bytes <|> keyPoint? bytes

/-! ## Files -/

/-- The kinds of blocks in which a private key may be, by their labels. -/
inductive KeyLabel where
  | anyAlgorithm
  | encrypted
  | curve
  /-- The parameters of a curve, in whose place a key of the curve may stand. -/
  | parameters
  /-- A key of an algorithm without a curve. -/
  | other
deriving DecidableEq

def KeyLabel.ofLabel? (label : Bytes) : Option KeyLabel :=
  if label = Armor.ascii "PRIVATE KEY" then some anyAlgorithm
  else if label = Armor.ascii "ENCRYPTED PRIVATE KEY" then some encrypted
  else if label = Armor.ascii "EC PRIVATE KEY" then some curve
  else if label = Armor.ascii "EC PARAMETERS" then some parameters
  else if label = Armor.ascii "RSA PRIVATE KEY" ∨ label = Armor.ascii "DSA PRIVATE KEY" then
    some other
  else none

def isKeyLabel (label : Bytes) : Bool :=
  match KeyLabel.ofLabel? label with
  | none | some .parameters => false
  | _ => true

/-- The length up to which the header of a block is not looked at. -/
def ignoredHeader : Nat := 10

/-- The first key that can be read, with malformed blocks and unreadable keys passed over. A long
header and an encrypted key end the search. A key that is only labelled as encrypted is read as it
is. -/
def firstKey? (ls : List Armor.Line) : Option Curve.Point :=
  match _h : Armor.nextBlock? ls with
  | none => none
  | some (none, rest) => firstKey? rest
  | some (some block, rest) =>
    if ignoredHeader < block.header.length then none
    else
      let element := Der.element? block.data
      match KeyLabel.ofLabel? block.label with
      | some .anyAlgorithm => element.bind keyPoint? <|> firstKey? rest
      | some .curve | some .parameters => element.bind curveFilePoint? <|> firstKey? rest
      | some .encrypted =>
        if (element.bind (Der.read? encryptedKey)).isSome then none
        else element.bind keyPoint? <|> firstKey? rest
      | _ => firstKey? rest
termination_by ls.length
decreasing_by all_goals exact Armor.nextBlock?_rest_lt _h

/-- The key of the first block that is labelled as one. Blocks before it must be well-formed, and
it has no header. -/
def labelledKey? (ls : List Armor.Line) : Option Curve.Point := do
  let block ← Armor.find? isKeyLabel ls
  if block.header ≠ [] then none
  else
    match KeyLabel.ofLabel? block.label with
    | some .anyAlgorithm => keyPoint? block.data
    | some .curve => curveFilePoint? block.data
    | _ => none

def fileKey? (bytes : Bytes) : Option Curve.Point :=
  let ls := Armor.lines bytes
  firstKey? ls <|> labelledKey? ls

/-- Answers by the contents of the files. -/
def pki : Pki where
  isCertificate bytes := (Certificate.ofFile? bytes).isSome
  matching? certificate key := do
    let certificate ← Certificate.ofFile? certificate
    let point ← fileKey? key
    return certificate.key == some point

end X509

end TelemetryBridge
