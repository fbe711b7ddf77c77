import TelemetryBridge.Text.Utf8

/-!
# Tagged data

Elements of a tag, a length and a content, as certificates and keys are made of, and the shapes that
say which elements they have. A length may be left open; then an end mark closes the content. Bits,
bytes and texts may come in pieces.
-/

namespace TelemetryBridge.Der

/-! ## Elements -/

/-- The tag of an element. Universal tags name the types that all formats share. -/
inductive Tag where
  | universal (number : Nat)
  | application (number : Nat)
  | context (number : Nat)
  | custom (number : Nat)
deriving DecidableEq

/-- What stands before a content. -/
structure Header where
  tag : Tag
  /-- The content is made of elements. -/
  constructed : Bool
  /-- The length of the content, unless it is left open. -/
  length : Option Nat
deriving DecidableEq

/-- The largest tag number to which another byte may be added. -/
def maxTagStart : Nat := 0xFFFFFF

/-- A tag number in base 128; every byte but the last has its top bit set. -/
def tagNumber? (n : Nat) : Bytes → Option (Nat × Bytes)
  | [] => none
  | b :: rest =>
    let n := n * 128 + b.toNat % 128
    if b.toNat < 0x80 then some (n, rest)
    else if maxTagStart < n then none
    else tagNumber? n rest

/-- A length of one byte, or of the bytes whose number stands before them; there is at least one
byte behind those. -/
def length? : Bytes → Option (Option Nat × Bytes)
  | [] => none
  | b :: rest =>
    let width := b.toNat - 0x80
    let digits := (rest.take width).dropWhile (· = 0)
    if b.toNat < 0x80 then some (some b.toNat, rest)
    else if width = 0 then some (none, rest)
    else if rest.length ≤ width ∨ 8 < digits.length then none
    else some (some (digits.foldl (fun n x => 256 * n + x.toNat) 0), rest.drop width)

def tagOf (first : UInt8) (number : Nat) : Tag :=
  match first.toNat / 64 with
  | 0 => .universal number
  | 1 => .application number
  | 2 => .context number
  | _ => .custom number

/-- The header at the front, and the bytes behind it. Only a content made of elements has an open
length. -/
def start? : Bytes → Option (Header × Bytes)
  | [] => none
  | first :: rest => do
    let (number, rest) ←
      if first.toNat % 32 = 31 then tagNumber? 0 rest else some (first.toNat % 32, rest)
    let (length, rest) ← length? rest
    let constructed := first.toNat / 32 % 2 = 1
    if length = none ∧ ¬constructed then none
    else return (⟨tagOf first number, constructed, length⟩, rest)

/-- The header at the front, if its content is there, and the bytes behind the header. -/
def header? (bytes : Bytes) : Option (Header × Bytes) :=
  (start? bytes).filter fun (header, rest) => header.length.all (· ≤ rest.length)

/-- The bytes behind the mark that ends an open content. -/
def endMark? : Bytes → Option Bytes
  | 0 :: 0 :: rest => some rest
  | _ => none

/-- The bytes behind an open content, of which so many end marks are to come. -/
def afterOpen? : Nat → Nat → Bytes → Option Bytes
  | 0, _, _ => none
  | fuel + 1, marks, bytes =>
    match endMark? bytes with
    | some rest => if marks ≤ 1 then some rest else afterOpen? fuel (marks - 1) rest
    | none => do
      let (header, rest) ← header? bytes
      match header.length with
      | some n => afterOpen? fuel marks (rest.drop n)
      | none => afterOpen? fuel (marks + 1) rest

/-! ## Elements cut off a file -/

/-- How many bytes are looked at for a header. -/
def headerWindow : Nat := 8

def Tag.number : Tag → Nat
  | universal n | application n | context n | custom n => n

/-- The bytes behind an element, of which so many end marks are to come. -/
def afterElement? : Nat → Nat → Bytes → Option Bytes
  | 0, _, _ => none
  | fuel + 1, marks, bytes => do
    let window := bytes.take headerWindow
    let (header, behind) ← start? window
    let rest := bytes.drop (window.length - behind.length)
    match header.length with
    | none => afterElement? fuel (marks + 1) rest
    | some n =>
      if 0 < marks ∧ n = 0 ∧ header.tag.number = 0 then
        if marks = 1 then return rest else afterElement? fuel (marks - 1) rest
      else if rest.length < n then none
      else if marks = 0 then return rest.drop n
      else afterElement? fuel marks (rest.drop n)

/-- The element at the front, with its header. -/
def element? (bytes : Bytes) : Option Bytes :=
  (afterElement? (bytes.length + 1) 0 bytes).map fun rest =>
    bytes.take (bytes.length - rest.length)

/-! ## Pieces -/

/-- How deep pieces may be made of pieces. -/
def maxNesting : Nat := 5

/-- A content that comes in pieces, and the bytes behind it. -/
def pieces? : Nat → Nat → Bool → Bytes → Option (Bytes × Bytes)
  | 0, _, _, _ => none
  | fuel + 1, nesting, isOpen, bytes =>
    if bytes = [] then if isOpen then none else some ([], [])
    else
      match endMark? bytes with
      | some rest => if isOpen then some ([], rest) else none
      | none => do
        let (header, rest) ← header? bytes
        let (piece, rest) ←
          match header.constructed, nesting, header.length with
          | false, _, length => some (rest.take (length.getD 0), rest.drop (length.getD 0))
          | true, 0, _ => none
          | true, nesting + 1, some n =>
            (pieces? fuel nesting false (rest.take n)).map fun (piece, _) => (piece, rest.drop n)
          | true, nesting + 1, none => pieces? fuel nesting true rest
        let (others, rest) ← pieces? fuel nesting isOpen rest
        return (piece ++ others, rest)

/-! ## Universal types -/

def boolean : Nat := 1
def integer : Nat := 2
def bitString : Nat := 3
def octetString : Nat := 4
def empty : Nat := 5
def identifier : Nat := 6
def enumerated : Nat := 10
def utf8String : Nat := 12
def sequence : Nat := 16
def set : Nat := 17
def utcTime : Nat := 23
def generalizedTime : Nat := 24
def universalString : Nat := 28
def bmpString : Nat := 30

/-- An integer has no more bytes than it needs. -/
def isInteger : Bytes → Bool
  | [] => false
  | [_] => true
  | a :: b :: rest =>
    let padded := a == 0 || (a == 0xFF && (b :: rest).any (· != 0))
    !(padded && a.toNat / 128 == b.toNat / 128)

/-- The parts of an identifier end with a byte below 0x80, and none begins with 0x80. -/
def isIdentifier (content : Bytes) : Bool :=
  content.getLast?.any (·.toNat < 0x80) &&
    (content.zip (0 :: content)).all fun (b, before) => b != 0x80 || 0x80 ≤ before.toNat

/-- The number of bits that do not count stands before the bits. -/
def isBitString (content : Bytes) : Bool := content.head?.any (·.toNat ≤ 7)

/-- Whether a content is one of the given universal type. -/
def isValid (type : Nat) (content : Bytes) : Bool :=
  if type = boolean then content.length == 1
  else if type = empty then content.isEmpty
  else if type = integer ∨ type = enumerated then isInteger content
  else if type = bitString then isBitString content
  else if type = identifier then isIdentifier content
  else if type = utcTime then 13 ≤ content.length
  else if type = generalizedTime then 15 ≤ content.length
  else if type = universalString then content.length % 4 == 0
  else if type = bmpString then content.length % 2 == 0
  else true

/-- The types whose contents never come in pieces. -/
def wholeTypes : List Nat := [boolean, integer, empty, identifier, enumerated]

/-- The content of an element that is no list of elements, and the bytes behind it. -/
def content? (type : Nat) (header : Header) (rest : Bytes) : Option (Bytes × Bytes) :=
  let fuel := rest.length + 1
  match header.constructed, header.length with
  | false, length => some (rest.take (length.getD 0), rest.drop (length.getD 0))
  | true, some n =>
    if wholeTypes.contains type then none
    else
      (pieces? fuel maxNesting false (rest.take n)).map fun (content, _) => (content, rest.drop n)
  | true, none =>
    if wholeTypes.contains type then none else pieces? fuel maxNesting true rest

/-! ## Shapes -/

/-- How the tag of a field says which field it is. -/
inductive Tagging where
  | plain
  /-- The tag stands in place of the one of the type. -/
  | implicit (number : Nat)
  /-- The field is the content of an element with the tag. -/
  | explicit (number : Nat)

structure Component (σ : Type) where
  shape : σ
  tagging : Tagging := .plain
  optional : Bool := false

/-- Of what something is made. -/
inductive Shape where
  /-- An element of a universal type, with a content as asked. -/
  | plain (type : Nat) (valid : Bytes → Bool)
  /-- An element of one of some universal types. -/
  | oneOf (types : List Nat)
  | any
  | sequence (fields : List (Component Shape))
  /-- Any number of elements of one shape, as a sequence or as a set. -/
  | list (type : Nat) (item : Shape)
  /-- An element of a shape that is kept with its header. -/
  | kept (shape : Shape)

def Shape.ofType (type : Nat) : Shape := .plain type (isValid type)

/-- What has been read. -/
inductive Value where
  | content (tag : Tag) (bytes : Bytes)
  | fields (values : List (Option Value))
  | items (values : List Value)

/-- What is read of an element: nothing if it is absent. -/
abbrev Outcome := Option (Option (Value × Bytes))

/-- What is read if the element is another one. -/
def absent (optional : Bool) : Outcome := if optional then some none else none

def present (value : Value) (rest : Bytes) : Outcome := some (some (value, rest))

/-- Reads an element of whatever type its header says. A list of elements, and what is not of a
universal type, is kept with its header. -/
def readTyped (bytes : Bytes) (header : Header) (rest : Bytes) : Outcome := do
  let whole : Outcome := do
    let after ←
      match header.length with
      | some n => some (rest.drop n)
      | none => afterOpen? (rest.length + 1) 1 rest
    present (.content header.tag (bytes.take (bytes.length - after.length))) after
  match header.tag with
  | .universal type =>
    if type = sequence ∨ type = set then if header.constructed then whole else none
    else
      let (content, rest) ← content? type header rest
      if isValid type content then present (.content header.tag content) rest else none
  | _ => whole

mutual

/-- Reads an element of a shape, perhaps with a tag in place of the one of its type. -/
def readShape : Nat → Shape → Option Tag → Bool → Bytes → Outcome
  | 0, _, _, _, _ => none
  | fuel + 1, shape, tag, optional, bytes => do
    let (header, rest) ← header? bytes
    match shape with
    | .plain type valid =>
      if header.tag ≠ tag.getD (.universal type) then absent optional
      else
        let (content, rest) ← content? type header rest
        if valid content then present (.content (.universal type) content) rest else none
    | .oneOf types =>
      match header.tag with
      | .universal type =>
        if types.contains type then readTyped bytes header rest else absent optional
      | _ => absent optional
    | .any => readTyped bytes header rest
    | .kept shape =>
      match ← readShape fuel shape tag optional bytes with
      | some (_, rest) =>
        present (.content header.tag (bytes.take (bytes.length - rest.length))) rest
      | none => absent optional
    | .sequence fields =>
      if header.tag ≠ tag.getD (.universal sequence) then absent optional
      else if !header.constructed then none
      else
        match header.length with
        | some n =>
          match ← readFields fuel fields false (rest.take n) with
          | (values, _, []) => present (.fields values) (rest.drop n)
          | _ => none
        | none =>
          match ← readFields fuel fields true rest with
          | (values, false, rest) => present (.fields values) rest
          | (values, true, rest) => present (.fields values) (← endMark? rest)
    | .list type item =>
      if header.tag ≠ tag.getD (.universal type) then absent optional
      else
        match header.length with
        | some n =>
          let (values, _) ← readItems fuel item false (rest.take n)
          present (.items values) (rest.drop n)
        | none =>
          let (values, rest) ← readItems fuel item true rest
          present (.items values) rest

/-- Reads a field. Only what is optional may be absent. -/
def readField : Nat → Component Shape → Bool → Bytes → Outcome
  | 0, _, _, _ => none
  | fuel + 1, field, optional, bytes =>
    match field.tagging with
    | .plain => readShape fuel field.shape none optional bytes
    | .implicit number => readShape fuel field.shape (some (.context number)) optional bytes
    | .explicit number => do
      let (header, rest) ← header? bytes
      if header.tag ≠ .context number then absent optional
      else if !header.constructed then none
      else
        match header.length with
        | some n =>
          match ← readShape fuel field.shape none false (rest.take n) with
          | some (value, []) => present value (rest.drop n)
          | _ => none
        | none =>
          match ← readShape fuel field.shape none false rest with
          | some (value, rest) => present value (← endMark? rest)
          | none => none

/-- Reads the fields of a sequence. The second part says whether an end mark is still to come. The
last field is not absent as long as there is something to read. -/
def readFields : Nat → List (Component Shape) → Bool → Bytes →
    Option (List (Option Value) × Bool × Bytes)
  | 0, _, _, _ => none
  | _, [], isOpen, bytes => some ([], isOpen, bytes)
  | fuel + 1, field :: fields, isOpen, bytes =>
    let none? (isOpen : Bool) (rest : Bytes) :=
      if (field :: fields).all (·.optional) then
        some ((field :: fields).map fun _ => none, isOpen, rest)
      else none
    if bytes = [] then none? isOpen []
    else
      match endMark? bytes with
      | some rest => if isOpen then none? false rest else none
      | none => do
        let (value, rest) ←
          match ← readField fuel field (field.optional && !fields.isEmpty) bytes with
          | some (value, rest) => some (some value, rest)
          | none => some (none, bytes)
        let (values, isOpen, rest) ← readFields fuel fields isOpen rest
        return (value :: values, isOpen, rest)

/-- Reads items up to the end. -/
def readItems : Nat → Shape → Bool → Bytes → Option (List Value × Bytes)
  | 0, _, _, _ => none
  | fuel + 1, item, isOpen, bytes =>
    if bytes = [] then if isOpen then none else some ([], [])
    else
      match endMark? bytes with
      | some rest => if isOpen then some ([], rest) else none
      | none => do
        let (value, rest) ← ← readShape fuel item none false bytes
        let (values, rest) ← readItems fuel item isOpen rest
        return (value :: values, rest)

end

/-- How many steps a shape takes that does not depend on the bytes. -/
def shapeSteps : Nat := 64

/-- Reads what has the given shape at the front; the second part holds the bytes behind it. -/
def read? (shape : Shape) (bytes : Bytes) : Option (Value × Bytes) :=
  (readShape (bytes.length + shapeSteps) shape none false bytes).join

end TelemetryBridge.Der
