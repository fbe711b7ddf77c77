import TelemetryBridge.Path.Basic

/-!
# Reading paths

A path text is cut at its top-level slashes: those outside `[...]` that no backslash escapes. Each
segment is then a name followed by key groups `[name=value]`. In names, keys and values a backslash
makes the next character plain.
-/

namespace TelemetryBridge

/-- Why a segment is no path element. Each cause carries the text at which reading stopped. -/
inductive PathFault where
  | missingName (segment : String)
  | missingOpening (text : String)
  | missingEquals (text : String)
  | missingKeyName (text : String)
  | missingClosing (text : String)
  | missingKeyValue (text : String)
deriving DecidableEq

def PathFault.message : PathFault → String
  | missingName s => "failed to find element name in \"" ++ s ++ "\""
  | missingOpening s => "failed to find opening '[' in \"" ++ s ++ "\""
  | missingEquals s => "failed to find '=' in \"" ++ s ++ "\""
  | missingKeyName s => "failed to find key name in \"" ++ s ++ "\""
  | missingClosing s => "failed to find ']' in \"" ++ s ++ "\""
  | missingKeyValue s => "failed to find key value in \"" ++ s ++ "\""

namespace Path

/-! ## Cutting at top-level slashes -/

/-- Where a scan stands: inside a key group or not, and after an escaping backslash or not. -/
structure ScanState where
  inBrackets : Bool
  escaped : Bool
deriving DecidableEq

namespace ScanState

def initial : ScanState := ⟨false, false⟩

/-- A character that opens or closes a group, or escapes. An escaped `[` still opens a group. -/
def next (s : ScanState) : Char → ScanState
  | '[' => ⟨true, false⟩
  | ']' => ⟨s.inBrackets && s.escaped, false⟩
  | '\\' => ⟨s.inBrackets, !s.escaped⟩
  | _ => ⟨s.inBrackets, false⟩

/-- Whether the character is a slash that ends the segment. -/
def cuts (s : ScanState) (c : Char) : Bool :=
  c == '/' && !s.inBrackets && !s.escaped

end ScanState

/-- The text up to the first cut, and the rest from that cut on. -/
def segment (s : ScanState) : List Char → List Char × List Char
  | [] => ([], [])
  | c :: cs =>
    if s.cuts c then ([], c :: cs)
    else
      let (token, rest) := segment (s.next c) cs
      (c :: token, rest)

def dropSlash : List Char → List Char
  | '/' :: cs => cs
  | cs => cs

theorem segment_append (s : ScanState) (cs : List Char) :
    (segment s cs).1 ++ (segment s cs).2 = cs := by
  induction cs generalizing s with
  | nil => rfl
  | cons c cs ih =>
    rw [segment]
    split
    · rfl
    · simp [ih]

theorem segment_rest (s : ScanState) (cs : List Char) :
    (segment s cs).2 = [] ∨ ∃ tail, (segment s cs).2 = '/' :: tail := by
  induction cs generalizing s with
  | nil => exact .inl rfl
  | cons c cs ih =>
    rw [segment]
    split
    · next h =>
      refine .inr ⟨cs, ?_⟩
      simp [ScanState.cuts] at h
      simp [h.1.1]
    · exact ih _

theorem dropSlash_segment_lt {cs : List Char} (s : ScanState) (h : cs ≠ []) :
    (dropSlash (segment s cs).2).length < cs.length := by
  have happ := congrArg List.length (segment_append s cs)
  rw [List.length_append] at happ
  have hpos : 0 < cs.length := List.length_pos_iff.2 h
  rcases segment_rest s cs with h0 | ⟨tail, h1⟩
  · simpa [h0, dropSlash] using hpos
  · rw [h1] at happ ⊢
    simp only [dropSlash, List.length_cons] at happ ⊢
    omega

/-- Cuts a text at its top-level slashes; every cut starts the scan afresh. -/
def segments (cs : List Char) : List (List Char) :=
  if _h : cs = [] then []
  else (segment .initial cs).1 :: segments (dropSlash (segment .initial cs).2)
termination_by cs.length
decreasing_by exact dropSlash_segment_lt _ ‹_›

/-- The segments of a path text; one leading slash is no cut. -/
def split (text : String) : List String :=
  (segments (dropSlash text.toList)).map String.ofList

/-! ## Reading a segment -/

/-- The unescaped text before the first unescaped `stop`, and what follows that `stop` if there is
one. A backslash at the very end is plain. -/
def cut (stop : Char) : List Char → List Char × Option (List Char)
  | [] => ([], none)
  | '\\' :: c :: cs =>
    let (text, rest) := cut stop cs
    (c :: text, rest)
  | c :: cs =>
    if c = stop then ([], some cs)
    else
      let (text, rest) := cut stop cs
      (c :: text, rest)

theorem cut_rest_lt {stop : Char} {cs text rest : List Char} (h : cut stop cs = (text, some rest)) :
    rest.length < cs.length := by
  fun_induction cut stop cs generalizing text with
  | case1 => simp at h
  | case2 c cs t r he ih =>
    simp only [Prod.mk.injEq] at h
    obtain ⟨-, rfl⟩ := h
    have := ih he
    simp only [List.length_cons]
    omega
  | case3 cs _ =>
    simp only [Prod.mk.injEq, Option.some.injEq] at h
    simp [h.2]
  | case4 c cs _ _ t r he ih =>
    simp only [Prod.mk.injEq] at h
    obtain ⟨-, rfl⟩ := h
    have := ih he
    simp only [List.length_cons]
    omega

/-- A key group: its name, its value and the text behind it. The text of the whole rest is what an
error quotes. -/
def group (rest : List Char) : Except PathFault (String × String × List Char) :=
  match rest with
  | '[' :: body =>
    match cut '=' body with
    | (_, none) => .error (.missingEquals (.ofList rest))
    | ([], some _) => .error (.missingKeyName (.ofList rest))
    | (name, some rhs) =>
      match cut ']' rhs with
      | (_, none) => .error (.missingClosing (.ofList rest))
      | ([], some _) => .error (.missingKeyValue (.ofList rest))
      | (value, some tail) => .ok (.ofList name, .ofList value, tail)
  | _ => .error (.missingOpening (.ofList rest))

theorem group_rest_lt {rest tail : List Char} {name value : String}
    (h : group rest = .ok (name, value, tail)) : tail.length < rest.length := by
  unfold group at h
  split at h
  · next body =>
    split at h
    · simp at h
    · simp at h
    · next n rhs _ hn =>
      split at h
      · simp at h
      · simp at h
      · next v t _ hv =>
        simp only [Except.ok.injEq, Prod.mk.injEq] at h
        have h1 := cut_rest_lt hn
        have h2 := cut_rest_lt hv
        rw [← h.2.2]
        simp only [List.length_cons]
        omega
  · simp at h

/-- The key groups up to the end of the text; a later group of a name replaces the value. -/
def groups (keys : KeyMap (Option String)) (rest : List Char) :
    Except PathFault (KeyMap (Option String)) :=
  if rest = [] then .ok keys
  else
    match _h : group rest with
    | .error e => .error e
    | .ok (name, value, tail) => groups (keys.assign name (some value)) tail
termination_by rest.length
decreasing_by exact group_rest_lt ‹_›

/-- Reads one segment. A segment without an unescaped `[` is all name, and may be empty. -/
def parseElem (text : String) : Except PathFault PathElem :=
  match cut '[' text.toList with
  | (name, none) => .ok ⟨.ofList name, ∅⟩
  | ([], some _) => .error (.missingName text)
  | (name, some rest) => do
    let keys ← groups ∅ ('[' :: rest)
    return ⟨.ofList name, keys⟩

/-- Reads a path text. The first segment that is no element is reported. -/
def parse (text : String) : Except PathFault Path := do
  let element := split text
  return { element := some element, elem := ← element.mapM parseElem }

end Path

end TelemetryBridge
