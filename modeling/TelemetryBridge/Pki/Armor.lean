import TelemetryBridge.Text.Utf8

/-!
# Armored texts

Binary data as base64 between a line that begins a block and a line that ends it, both with the
label of the block. Header lines may stand before the data, parted from it by an empty line.
-/

namespace TelemetryBridge.Armor

/-! ## Base64 -/

/-- What a byte of a base64 text is. A hyphen ends the text. -/
inductive Symbol where
  | digit (value : Nat)
  | padding
  | blank
  | stop
deriving DecidableEq

/-- Reads a byte of a base64 text. -/
def symbol? (b : UInt8) : Option Symbol :=
  let c := Char.ofNat b.toNat
  if 'A' ≤ c ∧ c ≤ 'Z' then some (.digit (b.toNat - 65))
  else if 'a' ≤ c ∧ c ≤ 'z' then some (.digit (b.toNat - 97 + 26))
  else if '0' ≤ c ∧ c ≤ '9' then some (.digit (b.toNat - 48 + 52))
  else if c = '+' then some (.digit 62)
  else if c = '/' then some (.digit 63)
  else if c = '=' then some .padding
  else if c = ' ' ∨ c = '\t' ∨ c = '\n' ∨ c = '\r' then some .blank
  else if c = '-' then some .stop
  else none

/-- The digits and the padding of a base64 text. Nothing is read behind its end. -/
def symbols? : Bytes → Option (List Symbol)
  | [] => some []
  | b :: bytes => do
    match ← symbol? b with
    | .stop => return []
    | .blank => symbols? bytes
    | symbol => return symbol :: (← symbols? bytes)

/-- Groups of four digits as three bytes each. Padding makes the last group shorter. -/
def groups? : List Symbol → Option Bytes
  | [] => some []
  | [.digit a, .digit b, .padding, .padding] =>
    some [UInt8.ofNat ((a * 64 + b) / 16)]
  | [.digit a, .digit b, .digit c, .padding] =>
    let n := (a * 64 + b) * 64 + c
    some [UInt8.ofNat (n / 1024), UInt8.ofNat (n / 4)]
  | .digit a :: .digit b :: .digit c :: .digit d :: rest =>
    let n := ((a * 64 + b) * 64 + c) * 64 + d
    (groups? rest).map fun bytes =>
      UInt8.ofNat (n / 65536) :: UInt8.ofNat (n / 256) :: UInt8.ofNat n :: bytes
  | _ => none

def base64? (bytes : Bytes) : Option Bytes := (symbols? bytes).bind groups?

/-! ## Lines -/

/-- A line of a file, or a piece of a line that is longer than what is read at a time. -/
structure Line where
  bytes : Bytes
  /-- The line goes on with the next piece. -/
  goesOn : Bool

/-- How many bytes are read at a time. -/
def pieceLength : Nat := 254

/-- Reads up to `n` bytes, and none behind a line feed. -/
def nextLine : Nat → Bytes → Bytes × Bytes
  | 0, bytes => ([], bytes)
  | _, [] => ([], [])
  | n + 1, b :: bytes =>
    if b = 10 then ([b], bytes)
    else
      let (line, rest) := nextLine n bytes
      (b :: line, rest)

theorem nextLine_rest_le (n : Nat) (bytes : Bytes) :
    (nextLine n bytes).2.length ≤ bytes.length := by
  fun_induction nextLine n bytes <;> simp_all
  omega

theorem nextLine_rest_lt (n : Nat) (b : UInt8) (bytes : Bytes) :
    (nextLine (n + 1) (b :: bytes)).2.length < (b :: bytes).length := by
  have := nextLine_rest_le n bytes
  rw [nextLine]
  split
  · simp
  · simp only [List.length_cons]
    omega

def lines : Bytes → List Line
  | [] => []
  | b :: bytes =>
    let line := (nextLine pieceLength (b :: bytes)).1
    ⟨line, line.length == pieceLength && line.getLast? != some 10⟩ ::
      lines (nextLine pieceLength (b :: bytes)).2
termination_by bytes => bytes.length
decreasing_by exact nextLine_rest_lt _ b bytes

/-- Whether a byte at the end of a line does not belong to its text: a blank, a control character,
or no ASCII. -/
def isTrailing (b : UInt8) : Bool := b.toNat ≤ 0x20 || 0x80 ≤ b.toNat

def strip (bytes : Bytes) : Bytes := (bytes.reverse.dropWhile isTrailing).reverse

/-- The bytes before the first zero byte. -/
def upToZero (bytes : Bytes) : Bytes := bytes.takeWhile (· != 0)

/-! ## Blocks -/

/-- The ASCII bytes of a text. -/
def ascii (s : String) : Bytes := s.toList.map fun c => UInt8.ofNat c.toNat

def beginning : Bytes := ascii "-----BEGIN "
def ending : Bytes := ascii "-----END "
def dashes : Bytes := ascii "-----"
def byteOrderMark : Bytes := [0xEF, 0xBB, 0xBF]

/-- The label of a line that begins a block. -/
def label? (line : Bytes) : Option Bytes :=
  let line := strip line
  let rest := line.drop beginning.length
  if beginning.isPrefixOf line ∧ dashes.isSuffixOf rest then
    some (upToZero (rest.take (rest.length - dashes.length)))
  else none

/-- The label of the first block, and the lines behind its first line. A byte order mark may stand
before the first of the lines. -/
def start? : List Line → Option (Bytes × List Line)
  | [] => none
  | line :: rest =>
    let unmarked :=
      if byteOrderMark.isPrefixOf line.bytes ∧ byteOrderMark.length < line.bytes.length then
        line.bytes.drop byteOrderMark.length
      else line.bytes
    match label? unmarked with
    | some label => some (label, rest)
    | none => search rest
where
  search : List Line → Option (Bytes × List Line)
    | [] => none
    | line :: rest =>
      match label? line.bytes with
      | some label => some (label, rest)
      | none => search rest

/-- A block: its label, the header lines before its data, and the data. -/
structure Block where
  label : Bytes
  header : Bytes
  data : Bytes
deriving DecidableEq

/-- What the lines of a block that were read belong to. Before a colon or an empty line is met it
is not decided whether they are a header. -/
inductive Part where
  | undecided
  | header
  | data
deriving DecidableEq

/-- How far a block has been read. -/
structure Progress where
  part : Part := .undecided
  /-- The line before goes on with this one. -/
  goingOn : Bool := false
  /-- A line behind the header was short, so that no other may follow. -/
  isLast : Bool := false
  header : Bytes := []
  data : Bytes := []

/-- The length that the lines behind a header have. -/
def lineLength : Nat := 64

/-- The block that has been read, if its data is base64 and not empty. Without a header all lines
are data. -/
def Progress.block? (p : Progress) (label : Bytes) : Option Block :=
  let (header, text) :=
    match p.part with
    | .undecided => ([], p.header)
    | _ => (p.header, p.data)
  match base64? text with
  | none | some [] => none
  | some data => some ⟨label, header, data⟩

/-- Takes a line that does not end the block. An empty line ends the header, and there is only one.
What follows a zero byte is lost. -/
def Progress.take? (p : Progress) (goesOn : Bool) (line : Bytes) : Option Progress :=
  if line = [] then
    if p.goingOn then some { p with goingOn := goesOn }
    else if p.part = .data then none
    else some { p with part := .data, goingOn := goesOn }
  else if p.isLast then none
  else
    let kept := if line.contains 0 then upToZero line else line ++ [10]
    if p.part = .data then
      if lineLength < line.length then none
      else
        some { p with
          goingOn := goesOn, isLast := line.length < lineLength, data := p.data ++ kept }
    else some { p with goingOn := goesOn, header := p.header ++ kept }

/-- Reads a block whose first line has been read. The second part holds the lines behind it, or
behind the line that makes it malformed. -/
def body? (label : Bytes) (p : Progress) : List Line → Option Block × List Line
  | [] => (none, [])
  | line :: rest =>
    let p := if p.part = .undecided ∧ line.bytes.contains 58 then { p with part := .header } else p
    let text := strip line.bytes
    if ending.isPrefixOf text then
      (if text = ending ++ label ++ dashes then p.block? label else none, rest)
    else
      match p.take? line.goesOn text with
      | some p => body? label p rest
      | none => (none, rest)

theorem body?_rest_le (label : Bytes) (p : Progress) (ls : List Line) :
    (body? label p ls).2.length ≤ ls.length := by
  induction ls generalizing p with
  | nil => simp [body?]
  | cons line ls ih =>
    rw [body?]
    split
    · simp
    · split
      · next q _ =>
        have := ih q
        simp only [List.length_cons]
        omega
      · simp

/-- The first block and the lines behind it, if there is one. A block that is malformed is none, and
there are lines behind it as well. -/
def nextBlock? (ls : List Line) : Option (Option Block × List Line) :=
  (start? ls).map fun (label, rest) => body? label {} rest

theorem search_rest_lt {ls rest : List Line} {label : Bytes}
    (h : start?.search ls = some (label, rest)) : rest.length < ls.length := by
  induction ls with
  | nil => simp [start?.search] at h
  | cons line ls ih =>
    rw [start?.search] at h
    split at h
    · simp only [Option.some.injEq, Prod.mk.injEq] at h
      simp [← h.2]
    · have := ih h
      simp only [List.length_cons]
      omega

theorem start?_rest_lt {ls rest : List Line} {label : Bytes}
    (h : start? ls = some (label, rest)) : rest.length < ls.length := by
  cases ls with
  | nil => simp [start?] at h
  | cons line ls =>
    rw [start?] at h
    split at h
    · simp only [Option.some.injEq, Prod.mk.injEq] at h
      simp [← h.2]
    · have := search_rest_lt h
      simp only [List.length_cons]
      omega

theorem nextBlock?_rest_lt {ls rest : List Line} {block : Option Block}
    (h : nextBlock? ls = some (block, rest)) : rest.length < ls.length := by
  simp only [nextBlock?, Option.map_eq_some_iff, Prod.exists] at h
  obtain ⟨label, after, hstart, hbody⟩ := h
  have hlt := start?_rest_lt hstart
  have hle := body?_rest_le label {} after
  rw [hbody] at hle
  exact Nat.lt_of_le_of_lt hle hlt

/-- The first block with a label that is asked for. Blocks before it must be well-formed. -/
def find? (wanted : Bytes → Bool) (ls : List Line) : Option Block :=
  match _h : nextBlock? ls with
  | some (some block, rest) => if wanted block.label then some block else find? wanted rest
  | _ => none
termination_by ls.length
decreasing_by exact nextBlock?_rest_lt _h

/-! ## Certificate blocks of a bundle -/

def certificateBegin : List Char := "-----BEGIN CERTIFICATE-----".toList
def certificateEnd : List Char := "-----END CERTIFICATE-----".toList

/-- The text before the first occurrence of a mark, and the text behind it. -/
def cutAt (mark : List Char) : List Char → Option (List Char × List Char)
  | [] => none
  | c :: cs =>
    if mark.isPrefixOf (c :: cs) then some ([], (c :: cs).drop mark.length)
    else (cutAt mark cs).map fun (before, after) => (c :: before, after)

theorem cutAt_rest_le {mark cs before after : List Char}
    (h : cutAt mark cs = some (before, after)) : after.length ≤ cs.length := by
  induction cs generalizing before after with
  | nil => simp [cutAt] at h
  | cons c cs ih =>
    rw [cutAt] at h
    split at h
    · simp only [Option.some.injEq, Prod.mk.injEq] at h
      simp [← h.2]
    · simp only [Option.map_eq_some_iff, Prod.mk.injEq, Prod.exists] at h
      obtain ⟨b, a, hcut, -, rfl⟩ := h
      have := ih hcut
      simp only [List.length_cons]
      omega

/-- The certificate blocks of a text, in order: from a line that begins one to the nearest line that
ends one, with at least one character between them. -/
def certificateBlocks (cs : List Char) : List (List Char) :=
  match _h : cutAt certificateBegin cs with
  | none => []
  | some (_, []) => []
  | some (_, c :: body) =>
    match _h : cutAt certificateEnd body with
    | none => []
    | some (inner, after) =>
      (certificateBegin ++ c :: inner ++ certificateEnd) :: certificateBlocks after
termination_by cs.length
decreasing_by
  have h1 := cutAt_rest_le ‹cutAt certificateBegin cs = _›
  have h2 := cutAt_rest_le ‹cutAt certificateEnd body = _›
  simp only [List.length_cons] at h1
  omega

end TelemetryBridge.Armor
