import TelemetryBridge.Proofs.TextBytes
import TelemetryBridge.Proofs.WireFields

/-!
# Reading requests

A reader of subscribe requests by their schema: what it reads of a message is a record of all the
fields the schema has for it. Fields of other numbers and of other types are passed over. A request
for paths is read as it was written.
-/

namespace TelemetryBridge.Wire

/-! ## Messages -/

structure PathElemMessage where
  name : Option String := none
  key : List (String × String) := []
deriving DecidableEq

structure PathMessage where
  element : List String := []
  origin : Option String := none
  elem : List PathElemMessage := []
  target : Option String := none
deriving DecidableEq

structure SubscriptionMessage where
  path : Option PathMessage := none
  mode : Option SubscriptionMode := none
  sampleInterval : Option Nat := none
  suppressRedundant : Option Bool := none
  heartbeatInterval : Option Nat := none
deriving DecidableEq

structure QosMessage where
  marking : Option Nat := none
deriving DecidableEq

/-- A list of subscriptions. What is common to their paths is a path of its own. -/
structure SubscriptionListMessage where
  common : Option PathMessage := none
  subscription : List SubscriptionMessage := []
  qos : Option QosMessage := none
  mode : Option Nat := none
  allowAggregation : Option Bool := none
  encoding : Option Nat := none
  updatesOnly : Option Bool := none
deriving DecidableEq

/-- What a request asks for. -/
inductive RequestMessage where
  | subscribe (list : SubscriptionListMessage)
  | poll
deriving DecidableEq

/-! ## The reader -/

/-- Well-formed UTF-8 only. -/
def readText (body : Bytes) : Option String :=
  if Text.utf8 (Text.decode body) = body then some (Text.spelled (Text.decode body)) else none

/-- Takes up the fields of a message one after the other. -/
def readMessage {σ : Type} (step : σ → Field → Option σ) (start : σ) (body : Bytes) : Option σ :=
  (readFields body).bind fun fields => fields.foldlM step start

def keyStep (entry : String × String) : Field → Option (String × String)
  | ⟨1, .message body⟩ => (readText body).map fun name => (name, entry.2)
  | ⟨2, .message body⟩ => (readText body).map fun value => (entry.1, value)
  | _ => some entry

/-- The last entry of a name counts. -/
def setKey (keys : List (String × String)) (entry : String × String) : List (String × String) :=
  if entry.1 ∈ keys.map Prod.fst then keys.map fun old => if old.1 = entry.1 then entry else old
  else keys ++ [entry]

def pathElemStep (e : PathElemMessage) : Field → Option PathElemMessage
  | ⟨1, .message body⟩ => (readText body).map fun name => { e with name := some name }
  | ⟨2, .message body⟩ =>
    (readMessage keyStep ("", "") body).map fun entry => { e with key := setKey e.key entry }
  | _ => some e

def pathStep (p : PathMessage) : Field → Option PathMessage
  | ⟨1, .message body⟩ => (readText body).map fun s => { p with element := p.element ++ [s] }
  | ⟨2, .message body⟩ => (readText body).map fun s => { p with origin := some s }
  | ⟨3, .message body⟩ =>
    (readMessage pathElemStep {} body).map fun e => { p with elem := p.elem ++ [e] }
  | ⟨4, .message body⟩ => (readText body).map fun s => { p with target := some s }
  | _ => some p

def modeOf? : Nat → Option SubscriptionMode
  | 0 => some .targetDefined
  | 1 => some .onChange
  | 2 => some .sample
  | _ => none

/-- A path that comes twice is merged. -/
def subscriptionStep (s : SubscriptionMessage) : Field → Option SubscriptionMessage
  | ⟨1, .message body⟩ =>
    (readMessage pathStep (s.path.getD {}) body).map fun p => { s with path := some p }
  | ⟨2, .number n⟩ => (modeOf? n).map fun mode => { s with mode := some mode }
  | ⟨3, .number n⟩ => some { s with sampleInterval := some n }
  | ⟨4, .number n⟩ => some { s with suppressRedundant := some (n != 0) }
  | ⟨5, .number n⟩ => some { s with heartbeatInterval := some n }
  | _ => some s

def qosStep (q : QosMessage) : Field → Option QosMessage
  | ⟨1, .number n⟩ => some { q with marking := some n }
  | _ => some q

def listStep (l : SubscriptionListMessage) : Field → Option SubscriptionListMessage
  | ⟨1, .message body⟩ =>
    (readMessage pathStep (l.common.getD {}) body).map fun p => { l with common := some p }
  | ⟨2, .message body⟩ =>
    (readMessage subscriptionStep {} body).map fun s =>
      { l with subscription := l.subscription ++ [s] }
  | ⟨4, .message body⟩ =>
    (readMessage qosStep (l.qos.getD {}) body).map fun q => { l with qos := some q }
  | ⟨5, .number n⟩ => some { l with mode := some n }
  | ⟨6, .number n⟩ => some { l with allowAggregation := some (n != 0) }
  | ⟨8, .number n⟩ => some { l with encoding := some n }
  | ⟨9, .number n⟩ => some { l with updatesOnly := some (n != 0) }
  | _ => some l

/-- A request asks for one thing: the last one counts. -/
def requestStep (r : Option RequestMessage) : Field → Option (Option RequestMessage)
  | ⟨1, .message body⟩ =>
    let start := match r with
      | some (.subscribe list) => list
      | _ => {}
    (readMessage listStep start body).map fun list => some (.subscribe list)
  | ⟨3, .message body⟩ => (readFields body).map fun _ => some .poll
  | _ => some r

/-- What a message of this many bytes asks for, if it is a request and asks for anything. -/
def readRequest (bytes : Bytes) : Option (Option RequestMessage) :=
  readMessage requestStep none bytes

/-! ## What is read of a path -/

/-- An element with its keys in order. A key without a value has the text `null`. -/
def PathElemMessage.ofElem (e : PathElem) : PathElemMessage :=
  ⟨some e.name, e.key.entries.map fun entry => (entry.1, entry.2.getD "null")⟩

/-- A path. Raw segments that are absent are none. -/
def PathMessage.ofPath (p : Path) : PathMessage :=
  ⟨p.element.getD [], p.origin, p.elem.map .ofElem, p.target⟩

end Wire

open Text

/-- No text of the element has a surrogate that stands alone. -/
structure PathElem.IsWhole (e : PathElem) : Prop where
  name : Text.IsWhole e.name
  keys : ∀ entry ∈ e.key.entries, Text.IsWhole entry.1 ∧ ∀ value ∈ entry.2, Text.IsWhole value

/-- No text of the path has a surrogate that stands alone. -/
structure Path.IsWhole (p : Path) : Prop where
  element : ∀ s ∈ p.element.getD [], Text.IsWhole s
  origin : ∀ s ∈ p.origin, Text.IsWhole s
  elem : ∀ e ∈ p.elem, e.IsWhole
  target : ∀ s ∈ p.target, Text.IsWhole s

namespace Wire

/-! ## Sizes -/

lemma length_le_message (field : Nat) (body : Bytes) :
    body.length ≤ (message field body).length := by
  simp only [message, List.length_append]
  omega

lemma length_le_flatMap {α : Type} {items : List α} {a : α} (h : a ∈ items) (write : α → Bytes) :
    (write a).length ≤ (items.flatMap write).length := by
  induction items with
  | nil => cases h
  | cons b items ih =>
    rw [List.flatMap_cons, List.length_append]
    rcases List.mem_cons.mp h with rfl | h
    · omega
    · have := ih h
      omega

/-! ## Reading what was written -/

lemma readText_textBytes {s : String} (h : Text.IsWhole s) : readText (textBytes s) = some s := by
  obtain ⟨t, rfl⟩ := h
  rw [readText, textBytes_spelled, decode_utf8, if_pos rfl]

lemma frames_text {field : Nat} {s : String} (hpos : 0 < field) (hfield : field < 2 ^ 29)
    (hsize : (text field s).length < lengthLimit) :
    Frames (text field s) [⟨field, .message (textBytes s)⟩] :=
  frames_message hpos hfield (Nat.lt_of_le_of_lt (length_le_message field _) hsize)

lemma readMessage_of_frames {σ : Type} {step : σ → Field → Option σ} {start : σ} {body : Bytes}
    {fields : List Field} (h : Frames body fields) :
    readMessage step start body = fields.foldlM step start := by
  rw [readMessage, h.readFields_eq, Option.bind_some]

/-- Fields of one kind are taken up one by one. -/
lemma foldlM_map {σ α : Type} {step : σ → Field → Option σ} {field : α → Field} {add : σ → α → σ}
    {items : List α} (h : ∀ s, ∀ a ∈ items, step s (field a) = some (add s a)) (start : σ) :
    (items.map field).foldlM step start = some (items.foldl add start) := by
  induction items generalizing start with
  | nil => rfl
  | cons a items ih =>
    rw [List.map_cons, List.foldlM_cons, h start a List.mem_cons_self]
    exact ih (fun s b hb => h s b (List.mem_cons_of_mem a hb)) _

lemma readKey (entry : String × String) (hname : Text.IsWhole entry.1)
    (hvalue : Text.IsWhole entry.2)
    (hsize : (text 1 entry.1 ++ text 2 entry.2).length < lengthLimit) :
    readMessage keyStep ("", "") (text 1 entry.1 ++ text 2 entry.2) = some entry := by
  rw [List.length_append] at hsize
  have h1 : Frames (text 1 entry.1) [⟨1, .message (textBytes entry.1)⟩] :=
    frames_text (by decide) (by decide) (by omega)
  have h2 : Frames (text 2 entry.2) [⟨2, .message (textBytes entry.2)⟩] :=
    frames_text (by decide) (by decide) (by omega)
  rw [readMessage_of_frames (h1.append h2)]
  simp [keyStep, readText_textBytes hname, readText_textBytes hvalue]

lemma foldl_setKey {entries : List (String × Option String)} {e : PathElemMessage}
    (nodup : (e.key.map Prod.fst ++ entries.map Prod.fst).Nodup) :
    entries.foldl (fun e entry => { e with key := setKey e.key (entry.1, entry.2.getD "null") }) e =
      { e with key := e.key ++ entries.map fun entry => (entry.1, entry.2.getD "null") } := by
  induction entries generalizing e with
  | nil => simp
  | cons entry entries ih =>
    have hfresh : entry.1 ∉ e.key.map Prod.fst := fun hm =>
      (List.nodup_append.mp nodup).2.2 entry.1 hm entry.1 (by simp) rfl
    rw [List.foldl_cons, setKey, if_neg hfresh, ih]
    · simp
    · simpa using nodup

lemma readPathElem {e : PathElem} (whole : e.IsWhole) (hsize : (pathElem e).length < lengthLimit) :
    readMessage pathElemStep {} (pathElem e) = some (.ofElem e) := by
  rw [pathElem, List.length_append] at hsize
  have hname : Frames (text 1 e.name) [⟨1, .message (textBytes e.name)⟩] :=
    frames_text (by decide) (by decide) (by omega)
  have hentry : ∀ entry ∈ e.key.entries,
      (text 1 entry.1 ++ text 2 (entry.2.getD "null")).length < lengthLimit := by
    intro entry hm
    have hkey : (key entry).length ≤ (e.key.entries.flatMap key).length :=
      length_le_flatMap hm key
    have hbody := length_le_message 2 (text 1 entry.1 ++ text 2 (entry.2.getD "null"))
    rw [key] at hkey
    omega
  have hkeys : Frames (e.key.entries.flatMap key) (e.key.entries.map fun entry =>
      ⟨2, .message (text 1 entry.1 ++ text 2 (entry.2.getD "null"))⟩) :=
    frames_flatMap fun entry hm => frames_message (by decide) (by decide) (hentry entry hm)
  have hstep : ∀ (m : PathElemMessage), ∀ entry ∈ e.key.entries,
      pathElemStep m ⟨2, .message (text 1 entry.1 ++ text 2 (entry.2.getD "null"))⟩ =
        some { m with key := setKey m.key (entry.1, entry.2.getD "null") } := by
    intro m entry hm
    obtain ⟨hfirst, hvalue⟩ := whole.keys entry hm
    have hsecond : Text.IsWhole (entry.2.getD "null") := by
      cases hv : entry.2 with
      | none => exact ⟨"null", by decide⟩
      | some value => exact hvalue value (by rw [hv]; rfl)
    have hread := readKey (entry.1, entry.2.getD "null") hfirst hsecond (hentry entry hm)
    simp only [pathElemStep, hread, Option.map_some]
  rw [pathElem, readMessage_of_frames (hname.append hkeys), List.singleton_append, List.foldlM_cons]
  have hfirst : pathElemStep {} ⟨1, .message (textBytes e.name)⟩ =
      some { name := some e.name, key := [] } := by
    simp only [pathElemStep, readText_textBytes whole.name, Option.map_some]
  rw [hfirst]
  refine (foldlM_map hstep _).trans ?_
  rw [foldl_setKey (by simpa using e.key.nodup)]
  rfl

lemma foldl_element (texts : List String) (p : PathMessage) :
    texts.foldl (fun p s => { p with element := p.element ++ [s] }) p =
      { p with element := p.element ++ texts } := by
  induction texts generalizing p with
  | nil => simp
  | cons s texts ih => rw [List.foldl_cons, ih]; simp

lemma foldl_elem (elems : List PathElem) (p : PathMessage) :
    elems.foldl (fun p e => { p with elem := p.elem ++ [.ofElem e] }) p =
      { p with elem := p.elem ++ elems.map .ofElem } := by
  induction elems generalizing p with
  | nil => simp
  | cons e elems ih => rw [List.foldl_cons, ih]; simp

lemma frames_optional {field : Nat} {value : Option String} (hpos : 0 < field)
    (hfield : field < 2 ^ 29) (hsize : (value.elim [] (text field)).length < lengthLimit) :
    Frames (value.elim [] (text field))
      (value.toList.map fun s => ⟨field, .message (textBytes s)⟩) := by
  cases value with
  | none => exact frames_nil
  | some s => exact frames_text hpos hfield hsize

lemma readPath {p : Path} (whole : p.IsWhole) (hsize : (path p).length < lengthLimit) :
    readMessage pathStep {} (path p) = some (.ofPath p) := by
  simp only [path, List.length_append] at hsize
  have htext : ∀ s ∈ p.element.getD [], (text 1 s).length < lengthLimit := by
    intro s hs
    have := length_le_flatMap hs (text 1)
    omega
  have hpathElem : ∀ e ∈ p.elem, (pathElem e).length < lengthLimit := by
    intro e he
    have := length_le_flatMap he fun e => message 3 (pathElem e)
    have := length_le_message 3 (pathElem e)
    omega
  have helement : Frames ((p.element.getD []).flatMap (text 1))
      ((p.element.getD []).map fun s => ⟨1, .message (textBytes s)⟩) :=
    frames_flatMap fun s hs => frames_text (by decide) (by decide) (htext s hs)
  have horigin : Frames (p.origin.elim [] (text 2))
      (p.origin.toList.map fun s => ⟨2, .message (textBytes s)⟩) :=
    frames_optional (by decide) (by decide) (by omega)
  have helem : Frames (p.elem.flatMap fun e => message 3 (pathElem e))
      (p.elem.map fun e => ⟨3, .message (pathElem e)⟩) :=
    frames_flatMap fun e he => frames_message (by decide) (by decide) (hpathElem e he)
  have htarget : Frames (p.target.elim [] (text 4))
      (p.target.toList.map fun s => ⟨4, .message (textBytes s)⟩) :=
    frames_optional (by decide) (by decide) (by omega)
  have hstep1 : ∀ (m : PathMessage), ∀ s ∈ p.element.getD [],
      pathStep m ⟨1, .message (textBytes s)⟩ = some { m with element := m.element ++ [s] } := by
    intro m s hs
    simp only [pathStep, readText_textBytes (whole.element s hs), Option.map_some]
  have hstep2 : ∀ (m : PathMessage), ∀ s ∈ p.origin.toList,
      pathStep m ⟨2, .message (textBytes s)⟩ = some { m with origin := some s } := by
    intro m s hs
    have hread := readText_textBytes (whole.origin s (Option.mem_toList.mp hs))
    simp only [pathStep, hread, Option.map_some]
  have hstep3 : ∀ (m : PathMessage), ∀ e ∈ p.elem,
      pathStep m ⟨3, .message (pathElem e)⟩ = some { m with elem := m.elem ++ [.ofElem e] } := by
    intro m e he
    simp only [pathStep, readPathElem (whole.elem e he) (hpathElem e he), Option.map_some]
  have hstep4 : ∀ (m : PathMessage), ∀ s ∈ p.target.toList,
      pathStep m ⟨4, .message (textBytes s)⟩ = some { m with target := some s } := by
    intro m s hs
    have hread := readText_textBytes (whole.target s (Option.mem_toList.mp hs))
    simp only [pathStep, hread, Option.map_some]
  rw [path, readMessage_of_frames (((helement.append horigin).append helem).append htarget)]
  simp only [List.foldlM_append, foldlM_map hstep1, foldlM_map hstep2, foldlM_map hstep3,
    foldlM_map hstep4, foldl_element, foldl_elem, Option.bind_eq_bind, Option.bind_some]
  cases horigin' : p.origin <;> cases htarget' : p.target <;>
    simp [PathMessage.ofPath, horigin', htarget']

lemma readSubscription {p : Path} (whole : p.IsWhole)
    (hsize : (subscription ⟨p, .targetDefined⟩).length < lengthLimit) :
    readMessage subscriptionStep {} (subscription ⟨p, .targetDefined⟩) =
      some { path := some (.ofPath p), mode := some .targetDefined } := by
  simp only [subscription, List.length_append] at hsize
  have hpath : (path p).length < lengthLimit := by
    have := length_le_message 1 (path p)
    omega
  have h1 : Frames (message 1 (path p)) [⟨1, .message (path p)⟩] :=
    frames_message (by decide) (by decide) hpath
  have h2 : Frames (number 2 (modeNumber .targetDefined)) [⟨2, .number 0⟩] :=
    frames_number (by decide) (by decide) (by decide)
  rw [subscription, readMessage_of_frames (h1.append h2)]
  simp [subscriptionStep, modeOf?, readPath whole hpath]

lemma foldl_subscription (paths : List Path) (l : SubscriptionListMessage) :
    paths.foldl (fun l p => { l with subscription := l.subscription ++
        [{ path := some (.ofPath p), mode := some .targetDefined }] }) l =
      { l with subscription := l.subscription ++
        paths.map fun p => { path := some (.ofPath p), mode := some .targetDefined } } := by
  induction paths generalizing l with
  | nil => simp
  | cons p paths ih => rw [List.foldl_cons, ih]; simp

lemma readSubscriptionList {target : String} {paths : List Path} (name : Text.IsWhole target)
    (whole : ∀ p ∈ paths, p.IsWhole)
    (hsize : (message 1 (text 4 target)).length +
      (paths.flatMap fun p => message 2 (subscription ⟨p, .targetDefined⟩)).length < lengthLimit) :
    readMessage listStep {} (message 1 (text 4 target) ++
        paths.flatMap fun p => message 2 (subscription ⟨p, .targetDefined⟩)) =
      some {
        common := some { target := some target }
        subscription := paths.map fun p =>
          { path := some (.ofPath p), mode := some .targetDefined } } := by
  have hname : (text 4 target).length < lengthLimit := by
    have := length_le_message 1 (text 4 target)
    omega
  have hpath : ∀ p ∈ paths, (subscription ⟨p, .targetDefined⟩).length < lengthLimit := by
    intro p hp
    have := length_le_flatMap hp fun p => message 2 (subscription ⟨p, .targetDefined⟩)
    have := length_le_message 2 (subscription ⟨p, .targetDefined⟩)
    omega
  have hcommon : readMessage pathStep {} (text 4 target) = some { target := some target } := by
    have htext : Frames (text 4 target) [⟨4, .message (textBytes target)⟩] :=
      frames_text (by decide) (by decide) hname
    rw [readMessage_of_frames htext]
    simp [pathStep, readText_textBytes name]
  have hfirst : Frames (message 1 (text 4 target)) [⟨1, .message (text 4 target)⟩] :=
    frames_message (by decide) (by decide) hname
  have hrest : Frames (paths.flatMap fun p => message 2 (subscription ⟨p, .targetDefined⟩))
      (paths.map fun p => ⟨2, .message (subscription ⟨p, .targetDefined⟩)⟩) :=
    frames_flatMap fun p hp => frames_message (by decide) (by decide) (hpath p hp)
  have hstep : ∀ (l : SubscriptionListMessage), ∀ p ∈ paths,
      listStep l ⟨2, .message (subscription ⟨p, .targetDefined⟩)⟩ =
        some { l with subscription := l.subscription ++
          [{ path := some (.ofPath p), mode := some .targetDefined }] } := by
    intro l p hp
    simp only [listStep, readSubscription (whole p hp) (hpath p hp), Option.map_some]
  rw [readMessage_of_frames (hfirst.append hrest), List.singleton_append, List.foldlM_cons]
  simp only [listStep, Option.getD_none, hcommon, Option.map_some, Option.bind_eq_bind,
    Option.bind_some]
  rw [foldlM_map hstep, foldl_subscription, List.nil_append]

/-- A request for paths is read as it was written. Whatever the target's name and the paths are, as
long as no surrogate stands alone in their texts and the request is shorter than a length can say,
all of its bytes are read, and what is read is the name in the path that is common to all, and one
subscription for each path, in order and with the cadence left to the target. Each path has the same
raw segments, origin, elements and target: the same texts, the same keys in the same order, and
origin and target present where they were. No other field is set. -/
theorem request_is_read (target : String) (paths : List Path) (name : Text.IsWhole target)
    (whole : ∀ p ∈ paths, p.IsWhole)
    (size : (request (.ofPaths target paths)).length < 2 ^ 32) :
    readRequest (request (.ofPaths target paths)) =
      some (some (.subscribe {
        common := some { target := some target }
        subscription := paths.map fun p =>
          { path := some (.ofPath p), mode := some .targetDefined } })) := by
  have hrequest : request (.ofPaths target paths) =
      message 1 (message 1 (text 4 target) ++
        paths.flatMap fun p => message 2 (subscription ⟨p, .targetDefined⟩)) := by
    simp only [request, SubscribeRequest.ofPaths, List.flatMap_map]
  rw [hrequest] at size ⊢
  have hbody := Nat.lt_of_le_of_lt (length_le_message 1 _) size
  have hlist := readSubscriptionList name whole (by rwa [List.length_append] at hbody)
  rw [readRequest, readMessage_of_frames (frames_message (by decide) (by decide) hbody)]
  simp only [List.foldlM_cons, List.foldlM_nil, requestStep, hlist, Option.map_some,
    Option.bind_eq_bind, Option.bind_some, Option.pure_def]

/-- Raw segments, an empty origin and keys in one path, an empty name and a target in the other. -/
theorem two_paths_are_read :
    let keys : KeyMap (Option String) := ⟨[("0", some ""), ("größe", some "1/2")], by decide⟩
    let first : Path :=
      { element := some ["", "port[größe=1/2]"], elem := [⟨"port", keys⟩], origin := some "" }
    let second : Path := { elem := [⟨"", ∅⟩], target := some "目" }
    readRequest (request (.ofPaths "dut" [first, second])) = some (some (.subscribe {
      common := some { target := some "dut" }
      subscription := [
        { path := some
            { element := ["", "port[größe=1/2]"], origin := some ""
              elem := [⟨some "port", [("0", ""), ("größe", "1/2")]⟩] }
          mode := some .targetDefined },
        { path := some { elem := [⟨some "", []⟩], target := some "目" }
          mode := some .targetDefined }] })) := by
  intro keys first second
  have hkeys : ∀ entry ∈ keys.entries,
      Text.IsWhole entry.1 ∧ ∀ value ∈ entry.2, Text.IsWhole value := by
    simp only [keys, List.forall_mem_cons, Option.mem_some_iff, forall_eq']
    exact ⟨⟨⟨"0", by decide⟩, ⟨"", by decide⟩⟩, ⟨⟨"größe", by decide⟩, ⟨"1/2", by decide⟩⟩, by simp⟩
  have hfirst : first.IsWhole :=
    { element := by
        simp only [first, Option.getD_some, List.forall_mem_cons]
        exact ⟨⟨"", by decide⟩, ⟨"port[größe=1/2]", by decide⟩, by simp⟩
      origin := by
        simp only [first, Option.mem_some_iff, forall_eq']
        exact ⟨"", by decide⟩
      elem := by
        simp only [first, List.forall_mem_singleton]
        exact ⟨⟨"port", by decide⟩, hkeys⟩
      target := by simp [first] }
  have hsecond : second.IsWhole :=
    { element := by simp [second]
      origin := by simp [second]
      elem := by
        simp only [second, List.forall_mem_singleton]
        exact ⟨⟨"", by decide⟩, by simp⟩
      target := by
        simp only [second, Option.mem_some_iff, forall_eq']
        exact ⟨"目", by decide⟩ }
  have whole : ∀ p ∈ [first, second], p.IsWhole := by
    simp only [List.forall_mem_cons]
    exact ⟨hfirst, hsecond, by simp⟩
  exact request_is_read "dut" [first, second] ⟨"dut", by decide⟩ whole (by decide +kernel)

end Wire

end TelemetryBridge
