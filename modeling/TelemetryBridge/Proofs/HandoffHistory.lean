import Mathlib.Data.List.Induction
import Mathlib.Data.List.Sort
import TelemetryBridge.Handoff

/-!
# Histories of a hand-off

Any number of callers send, receive and abort signals, in any order. The history of a hand-off numbers
the calls in the order in which they are made, and lists the calls that each event ends. `Orderly` says
where every call is and in which order the waiting ones will be served; every event keeps it, and with
it sends and receives are fulfilled in pairs, both in the order in which they were made.
-/

namespace TelemetryBridge

/-- A call at a hand-off, or the abort of a signal. -/
inductive HandoffEvent (σ α : Type) where
  | send (value : α) (signal : σ)
  | receive (signal : σ)
  | abort (signal : σ) (reason : Failure)

/-- Where a call stands. -/
inductive CallState where
  | waiting
  | fulfilled
  | cancelled
deriving DecidableEq

/-- Where a call stands that has ended. -/
def CallOutcome.state {α : Type} : CallOutcome α → CallState
  | sent | received _ => .fulfilled
  | cancelled _ => .cancelled

namespace Handoff

variable {κ σ α : Type}

/-- The calls that wait, with their signals. -/
def waiting (h : Handoff κ σ α) : List (σ × κ) :=
  h.senders.map (fun w => (w.signal, w.call)) ++ h.receivers.map fun w => (w.signal, w.call)

variable [DecidableEq κ] [DecidableEq σ] (h : Handoff κ σ α)

lemma send_cases (call : κ) (value : α) (signal : σ) :
    (∃ reason, h.send call value signal = (h, [(call, .cancelled reason)])) ∨
      (∃ w rest, h.receivers = w :: rest ∧ h.send call value signal =
        ({ h with receivers := rest, listeners := h.listeners.filter (· ≠ (w.signal, w.call)) },
          [(w.call, .received value), (call, .sent)])) ∨
      (h.receivers = [] ∧ h.send call value signal =
        ({ h with
            senders := h.senders ++ [⟨call, signal, value⟩]
            listeners := h.listeners ++ [(signal, call)] }, [])) := by
  unfold send
  split
  · next reason _ => exact Or.inl ⟨reason, rfl⟩
  · split
    · next w rest hr => exact Or.inr (Or.inl ⟨w, rest, hr, rfl⟩)
    · next hr => exact Or.inr (Or.inr ⟨hr, rfl⟩)

lemma receive_cases (call : κ) (signal : σ) :
    (∃ reason, h.receive call signal = (h, [(call, .cancelled reason)])) ∨
      (∃ w rest, h.senders = w :: rest ∧ h.receive call signal =
        ({ h with senders := rest, listeners := h.listeners.filter (· ≠ (w.signal, w.call)) },
          [(w.call, .sent), (call, .received w.value)])) ∨
      (h.senders = [] ∧ h.receive call signal =
        ({ h with
            receivers := h.receivers ++ [⟨call, signal⟩]
            listeners := h.listeners ++ [(signal, call)] }, [])) := by
  unfold receive
  split
  · next reason _ => exact Or.inl ⟨reason, rfl⟩
  · split
    · next w rest hs => exact Or.inr (Or.inl ⟨w, rest, hs, rfl⟩)
    · next hs => exact Or.inr (Or.inr ⟨hs, rfl⟩)

lemma abort_cases (signal : σ) (reason : Failure) :
    h.abort signal reason = (h, []) ∨ h.abort signal reason =
      ({ senders := h.senders.filter (·.call ∉ h.listening signal)
         receivers := h.receivers.filter (·.call ∉ h.listening signal)
         listeners := h.listeners.filter (·.1 ≠ signal)
         aborted := h.aborted ++ [(signal, reason)] },
        (h.listening signal).map fun call => (call, .cancelled reason)) := by
  unfold abort
  split
  · exact Or.inl rfl
  · exact Or.inr rfl

omit [DecidableEq κ] in
variable {h} in
/-- A call that waits listens to the signal it named. -/
lemma mem_listening (hl : h.listeners.Perm h.waiting) (hn : (h.waiting.map (·.2)).Nodup)
    {w : σ × κ} (hw : w ∈ h.waiting) (signal : σ) :
    w.2 ∈ h.listening signal ↔ w.1 = signal := by
  unfold listening
  constructor
  · intro hm
    obtain ⟨x, hx, hxw⟩ := List.mem_map.mp hm
    obtain ⟨hx, hs⟩ := List.mem_filter.mp hx
    have he : x = w := List.inj_on_of_nodup_map hn (hl.mem_iff.mp hx) hw hxw
    rw [← he]
    exact of_decide_eq_true hs
  · intro hs
    exact List.mem_map.mpr ⟨w, List.mem_filter.mpr ⟨hl.mem_iff.mpr hw, decide_eq_true hs⟩, rfl⟩

end Handoff

/-- A hand-off with what has happened to it. Calls are numbered in the order in which they are made.
-/
structure HandoffHistory (σ α : Type) where
  handoff : Handoff Nat σ α := {}
  /-- The calls made: a send with its value, a receive without one. -/
  calls : List (Option α) := []
  /-- The calls that each event has ended. -/
  endings : List (List (Nat × CallOutcome α)) := []

namespace HandoffHistory

variable {σ α : Type}

/-- The calls that have ended. -/
def ended (h : HandoffHistory σ α) : List (Nat × CallOutcome α) := h.endings.flatten

/-- The states in which a call is found: one for each place where it waits, and one for each time it
has ended. -/
def states (h : HandoffHistory σ α) (call : Nat) : List CallState :=
  (h.handoff.waiting.filter (·.2 = call)).map (fun _ => .waiting) ++
    (h.ended.filter (·.1 = call)).map (·.2.state)

/-- The value of a call that is a send. -/
def value? (h : HandoffHistory σ α) (call : Nat) : Option α := h.calls[call]?.join

/-- The fulfilled sends, in the order in which they were made. -/
def fulfilledSends (h : HandoffHistory σ α) : List Nat :=
  (List.range h.calls.length).filter fun call =>
    (h.value? call).isSome && decide (.fulfilled ∈ h.states call)

/-- The fulfilled receives, in the order in which they were made. -/
def fulfilledReceives (h : HandoffHistory σ α) : List Nat :=
  (List.range h.calls.length).filter fun call =>
    (h.value? call).isNone && decide (.fulfilled ∈ h.states call)

/-- The send and the receive that an event has fulfilled together. -/
def handover? : List (Nat × CallOutcome α) → Option (Nat × Nat)
  | [(send, .sent), (receive, .received _)] => some (send, receive)
  | [(receive, .received _), (send, .sent)] => some (send, receive)
  | _ => none

/-- The sends and receives that were fulfilled together, in the order in which that happened. -/
def handovers (h : HandoffHistory σ α) : List (Nat × Nat) := h.endings.filterMap handover?

/-- The history with the calls that an event makes and ends. -/
def add (h : HandoffHistory σ α) (made : List (Option α))
    (result : Handoff Nat σ α × List (Nat × CallOutcome α)) : HandoffHistory σ α :=
  ⟨result.1, h.calls ++ made, h.endings ++ [result.2]⟩

section

variable [DecidableEq σ]

def step (h : HandoffHistory σ α) : HandoffEvent σ α → HandoffHistory σ α
  | .send value signal => h.add [some value] (h.handoff.send h.calls.length value signal)
  | .receive signal => h.add [none] (h.handoff.receive h.calls.length signal)
  | .abort signal reason => h.add [] (h.handoff.abort signal reason)

/-- The history of a fresh hand-off after a list of events. -/
def after (events : List (HandoffEvent σ α)) : HandoffHistory σ α := events.foldl step {}

end

/-- What one event ends: calls that are cancelled, or a send and the receive of its value. -/
inductive Ends (h : HandoffHistory σ α) : List (Nat × CallOutcome α) → Prop
  | cancels (calls : List Nat) (reason : Failure) :
    Ends h (calls.map fun call => (call, .cancelled reason))
  | taken {s r : Nat} {value : α} (send : h.calls[s]? = some (some value))
    (receive : h.calls[r]? = some none) : Ends h [(s, .sent), (r, .received value)]
  | handed {s r : Nat} {value : α} (send : h.calls[s]? = some (some value))
    (receive : h.calls[r]? = some none) : Ends h [(r, .received value), (s, .sent)]

/-- Every call is in one place, and the calls that wait will be served in order. -/
structure Orderly (h : HandoffHistory σ α) : Prop where
  oneSided : h.handoff.senders = [] ∨ h.handoff.receivers = []
  offers : ∀ w ∈ h.handoff.senders, h.calls[w.call]? = some (some w.value)
  asks : ∀ w ∈ h.handoff.receivers, h.calls[w.call]? = some none
  listeners : h.handoff.listeners.Perm h.handoff.waiting
  -- A call that has been made waits or has ended, and is found only once.
  placed : (h.handoff.waiting.map (·.2) ++ h.ended.map (·.1)).Perm (List.range h.calls.length)
  endings : ∀ ended ∈ h.endings, h.Ends ended
  -- Those that wait on either side were made after those that have been fulfilled there.
  sends : (h.handovers.map (·.1) ++ h.handoff.senders.map (·.call)).Pairwise (· < ·)
  receives : (h.handovers.map (·.2) ++ h.handoff.receivers.map (·.call)).Pairwise (· < ·)

section

variable {h : HandoffHistory σ α} {made : List (Option α)}
  {result : Handoff Nat σ α × List (Nat × CallOutcome α)}

@[simp] lemma handoff_add : (h.add made result).handoff = result.1 := rfl

@[simp] lemma calls_add : (h.add made result).calls = h.calls ++ made := rfl

@[simp] lemma ended_add : (h.add made result).ended = h.ended ++ result.2 := by
  simp [ended, add]

@[simp] lemma handovers_add :
    (h.add made result).handovers = h.handovers ++ (handover? result.2).toList := by
  unfold handovers add
  cases hr : handover? result.2 <;> simp [hr]

@[simp] lemma handover?_cancels (calls : List Nat) (reason : Failure) :
    handover? (calls.map fun call => (call, (.cancelled reason : CallOutcome α))) = none := by
  rcases calls with _ | ⟨a, _ | ⟨b, _ | ⟨c, calls⟩⟩⟩ <;> rfl

lemma call_add {call : Nat} {c : Option α} (hc : h.calls[call]? = some c) :
    (h.add made result).calls[call]? = some c := by
  obtain ⟨hlt, -⟩ := List.getElem?_eq_some_iff.mp hc
  exact (List.getElem?_append_left hlt).trans hc

lemma call_add_last {c : Option α} : (h.add [c] result).calls[h.calls.length]? = some c := by
  simp [add]

lemma Ends.add {ended : List (Nat × CallOutcome α)} (he : h.Ends ended) :
    (h.add made result).Ends ended := by
  cases he with
  | cancels calls reason => exact .cancels calls reason
  | taken send receive => exact .taken (call_add send) (call_add receive)
  | handed send receive => exact .handed (call_add send) (call_add receive)

lemma Orderly.endings_add (ho : h.Orderly) (he : (h.add made result).Ends result.2) :
    ∀ ended ∈ (h.add made result).endings, (h.add made result).Ends ended := by
  intro ended hm
  rcases List.mem_append.mp hm with hm | hm
  · exact (ho.endings ended hm).add
  · rwa [List.mem_singleton.mp hm]

lemma Orderly.nodup (ho : h.Orderly) :
    (h.handoff.waiting.map (·.2) ++ h.ended.map (·.1)).Nodup :=
  ho.placed.nodup_iff.mpr List.nodup_range

lemma Orderly.lt_of_ended (ho : h.Orderly) {e : Nat × CallOutcome α} (he : e ∈ h.ended) :
    e.1 < h.calls.length :=
  List.mem_range.mp (ho.placed.mem_iff.mp
    (List.mem_append_right _ (List.mem_map_of_mem he)))

/-- A call whose signal is aborted already ends at once. -/
lemma Orderly.refused (ho : h.Orderly) (call : Option α) (reason : Failure) :
    (h.add [call] (h.handoff, [(h.calls.length, .cancelled reason)])).Orderly where
  oneSided := ho.oneSided
  offers w hw := call_add (ho.offers w hw)
  asks w hw := call_add (ho.asks w hw)
  listeners := ho.listeners
  placed := by
    have hp := ho.placed.append_right [h.calls.length]
    simpa [List.range_succ] using hp
  endings := ho.endings_add (.cancels [h.calls.length] reason)
  sends := by simpa [handover?] using ho.sends
  receives := by simpa [handover?] using ho.receives

/-- What is handed over is the value of a send, and a receive takes it. -/
lemma Orderly.of_handover (ho : h.Orderly) {p : Nat × Nat} (hp : p ∈ h.handovers) :
    ∃ value, h.calls[p.1]? = some (some value) ∧ h.calls[p.2]? = some none ∧
      (p.1, .sent) ∈ h.ended ∧ (p.2, .received value) ∈ h.ended := by
  obtain ⟨ended, hm, hh⟩ := List.mem_filterMap.mp hp
  have mem {e : Nat × CallOutcome α} (he : e ∈ ended) : e ∈ h.ended :=
    List.mem_flatten.mpr ⟨ended, hm, he⟩
  cases ho.endings ended hm with
  | cancels calls reason => simp at hh
  | @taken s r value send receive =>
    obtain rfl : (s, r) = p := Option.some.inj hh
    exact ⟨value, send, receive, mem (by simp), mem (by simp)⟩
  | @handed s r value send receive =>
    obtain rfl : (s, r) = p := Option.some.inj hh
    exact ⟨value, send, receive, mem (by simp), mem (by simp)⟩

lemma Orderly.lt_of_send (ho : h.Orderly) {s : Nat}
    (hs : s ∈ h.handovers.map (·.1) ++ h.handoff.senders.map (·.call)) : s < h.calls.length := by
  rcases List.mem_append.mp hs with hs | hs
  · obtain ⟨p, hp, rfl⟩ := List.mem_map.mp hs
    obtain ⟨value, hv, -⟩ := ho.of_handover hp
    exact (List.getElem?_eq_some_iff.mp hv).1
  · obtain ⟨w, hw, rfl⟩ := List.mem_map.mp hs
    exact (List.getElem?_eq_some_iff.mp (ho.offers w hw)).1

lemma Orderly.lt_of_receive (ho : h.Orderly) {r : Nat}
    (hr : r ∈ h.handovers.map (·.2) ++ h.handoff.receivers.map (·.call)) : r < h.calls.length := by
  rcases List.mem_append.mp hr with hr | hr
  · obtain ⟨p, hp, rfl⟩ := List.mem_map.mp hr
    obtain ⟨value, -, hv, -⟩ := ho.of_handover hp
    exact (List.getElem?_eq_some_iff.mp hv).1
  · obtain ⟨w, hw, rfl⟩ := List.mem_map.mp hr
    exact (List.getElem?_eq_some_iff.mp (ho.asks w hw)).1

lemma pairwise_snoc {l : List Nat} {n : Nat} (hl : l.Pairwise (· < ·)) (hn : ∀ i ∈ l, i < n) :
    (l ++ [n]).Pairwise (· < ·) :=
  List.pairwise_append.mpr ⟨hl, List.pairwise_singleton _ _, fun i hi j hj => by
    rw [List.mem_singleton.mp hj]
    exact hn i hi⟩

/-- A new call that waits is in its place. -/
lemma Orderly.placed_waits (ho : h.Orderly) {c : Option α} {signal : σ} {handoff : Handoff Nat σ α}
    (hw : handoff.waiting.Perm ((signal, h.calls.length) :: h.handoff.waiting)) :
    (handoff.waiting.map (·.2) ++ (h.add [c] (handoff, [])).ended.map (·.1)).Perm
      (List.range (h.add [c] (handoff, [])).calls.length) := by
  have hm : (handoff.waiting.map (·.2)).Perm (h.calls.length :: h.handoff.waiting.map (·.2)) :=
    hw.map fun x : σ × Nat => x.2
  have hp := (hm.append_right _).trans
    ((ho.placed.cons h.calls.length).trans (List.perm_append_singleton _ _).symm)
  simpa [List.range_succ] using hp

/-- A call that waits is served by a new one: both have ended. -/
lemma Orderly.placed_served (ho : h.Orderly) {c : Option α} {w : σ × Nat}
    {handoff : Handoff Nat σ α} {ended : List (Nat × CallOutcome α)}
    (hw : h.handoff.waiting.Perm (w :: handoff.waiting))
    (he : ended.map (·.1) = [w.2, h.calls.length]) :
    (handoff.waiting.map (·.2) ++ (h.add [c] (handoff, ended)).ended.map (·.1)).Perm
      (List.range (h.add [c] (handoff, ended)).calls.length) := by
  have hp := ((hw.map (·.2)).append_right (h.ended.map (·.1))).symm.trans ho.placed
  rw [ended_add, calls_add, List.map_append, he]
  rw [List.perm_iff_count] at hp ⊢
  intro i
  have := hp i
  simp [List.range_succ, List.count_cons] at this ⊢
  omega

/-- The abort of a signal that is aborted already ends nothing. -/
lemma Orderly.unchanged (ho : h.Orderly) : (h.add [] (h.handoff, [])).Orderly where
  oneSided := ho.oneSided
  offers w hw := call_add (ho.offers w hw)
  asks w hw := call_add (ho.asks w hw)
  listeners := ho.listeners
  placed := by simpa using ho.placed
  endings := ho.endings_add (.cancels [] .absent)
  sends := by simpa [handover?] using ho.sends
  receives := by simpa [handover?] using ho.receives

/-- Without a receive that waits, a send waits behind those made before it. -/
lemma Orderly.held (ho : h.Orderly) (value : α) (signal : σ) (nobody : h.handoff.receivers = []) :
    (h.add [some value] ({ h.handoff with
      senders := h.handoff.senders ++ [⟨h.calls.length, signal, value⟩]
      listeners := h.handoff.listeners ++ [(signal, h.calls.length)] }, [])).Orderly where
  oneSided := Or.inr nobody
  offers w hw := by
    rcases List.mem_append.mp hw with hw | hw
    · exact call_add (ho.offers w hw)
    · rw [List.mem_singleton.mp hw]
      exact call_add_last
  asks w hw := call_add (ho.asks w hw)
  listeners := by
    have hl := ho.listeners.append_right [(signal, h.calls.length)]
    simpa [Handoff.waiting, nobody] using hl
  placed := by
    have hw : ({ h.handoff with
        senders := h.handoff.senders ++ [⟨h.calls.length, signal, value⟩]
        listeners := h.handoff.listeners ++ [(signal, h.calls.length)] } :
          Handoff Nat σ α).waiting.Perm ((signal, h.calls.length) :: h.handoff.waiting) := by
      simp [Handoff.waiting, nobody]
    exact ho.placed_waits hw
  endings := ho.endings_add (.cancels [] .absent)
  sends := by
    have hs := pairwise_snoc ho.sends fun _ hi => ho.lt_of_send hi
    simpa [handover?] using hs
  receives := by simpa [handover?] using ho.receives

/-- Without a send that waits, a receive waits behind those made before it. -/
lemma Orderly.asked (ho : h.Orderly) (signal : σ) (nobody : h.handoff.senders = []) :
    (h.add [none] ({ h.handoff with
      receivers := h.handoff.receivers ++ [⟨h.calls.length, signal⟩]
      listeners := h.handoff.listeners ++ [(signal, h.calls.length)] }, [])).Orderly where
  oneSided := Or.inl nobody
  offers w hw := call_add (ho.offers w hw)
  asks w hw := by
    rcases List.mem_append.mp hw with hw | hw
    · exact call_add (ho.asks w hw)
    · rw [List.mem_singleton.mp hw]
      exact call_add_last
  listeners := by
    have hl := ho.listeners.append_right [(signal, h.calls.length)]
    simpa [Handoff.waiting, nobody] using hl
  placed := by
    have hw : ({ h.handoff with
        receivers := h.handoff.receivers ++ [⟨h.calls.length, signal⟩]
        listeners := h.handoff.listeners ++ [(signal, h.calls.length)] } :
          Handoff Nat σ α).waiting.Perm ((signal, h.calls.length) :: h.handoff.waiting) := by
      simp [Handoff.waiting, nobody]
    exact ho.placed_waits hw
  endings := ho.endings_add (.cancels [] .absent)
  sends := by simpa [handover?] using ho.sends
  receives := by
    have hr := pairwise_snoc ho.receives fun _ hi => ho.lt_of_receive hi
    simpa [handover?] using hr

variable [DecidableEq σ]

/-- A call that no longer waits no longer listens. -/
lemma Orderly.listeners_served (ho : h.Orderly) {w : σ × Nat}
    {waiting : List (σ × Nat)} (hw : h.handoff.waiting.Perm (w :: waiting)) :
    (h.handoff.listeners.filter (· ≠ w)).Perm waiting := by
  have hn : (w :: waiting).Nodup := by
    have hm := (List.nodup_append.mp ho.nodup).1.of_map
    exact hw.nodup_iff.mp hm
  obtain ⟨hnot, -⟩ := List.nodup_cons.mp hn
  have hf := (ho.listeners.trans hw).filter (fun x => decide (x ≠ w))
  have he : waiting.filter (fun x => decide (x ≠ w)) = waiting := by
    rw [List.filter_eq_self]
    intro x hx
    have : x ≠ w := fun he => hnot (he ▸ hx)
    simpa using this
  rw [List.filter_cons_of_neg (by simp), he] at hf
  exact hf

/-- A send gives its value to the receive that waits longest. -/
lemma Orderly.handed (ho : h.Orderly) (value : α) {w : WaitingReceive Nat σ}
    {rest : List (WaitingReceive Nat σ)} (first : h.handoff.receivers = w :: rest) :
    (h.add [some value] ({ h.handoff with
      receivers := rest
      listeners := h.handoff.listeners.filter (· ≠ (w.signal, w.call)) },
      [(w.call, .received value), (h.calls.length, .sent)])).Orderly := by
  have nobody : h.handoff.senders = [] := by simpa [first] using ho.oneSided
  have hw : h.handoff.waiting.Perm ((w.signal, w.call) :: { h.handoff with
      receivers := rest
      listeners := h.handoff.listeners.filter (· ≠ (w.signal, w.call)) }.waiting) := by
    simp [Handoff.waiting, nobody, first]
  have hasks := ho.asks
  rw [first] at hasks
  refine ⟨Or.inl nobody, fun v hv => call_add (ho.offers v hv),
    fun v hv => call_add (hasks v (List.mem_cons_of_mem _ hv)), ho.listeners_served hw,
    ho.placed_served hw rfl,
    ho.endings_add (.handed call_add_last (call_add (hasks w List.mem_cons_self))), ?_, ?_⟩
  · have hs := pairwise_snoc ho.sends fun _ hi => ho.lt_of_send hi
    simpa [handover?, nobody] using hs
  · simpa [handover?, first] using ho.receives

/-- A receive takes the value of the send that waits longest. -/
lemma Orderly.taken (ho : h.Orderly) {w : WaitingSend Nat σ α} {rest : List (WaitingSend Nat σ α)}
    (first : h.handoff.senders = w :: rest) :
    (h.add [none] ({ h.handoff with
      senders := rest
      listeners := h.handoff.listeners.filter (· ≠ (w.signal, w.call)) },
      [(w.call, .sent), (h.calls.length, .received w.value)])).Orderly := by
  have nobody : h.handoff.receivers = [] := by simpa [first] using ho.oneSided
  have hw : h.handoff.waiting.Perm ((w.signal, w.call) :: { h.handoff with
      senders := rest
      listeners := h.handoff.listeners.filter (· ≠ (w.signal, w.call)) }.waiting) := by
    simp [Handoff.waiting, nobody, first]
  have hoffers := ho.offers
  rw [first] at hoffers
  refine ⟨Or.inr nobody, fun v hv => call_add (hoffers v (List.mem_cons_of_mem _ hv)),
    fun v hv => call_add (ho.asks v hv), ho.listeners_served hw, ho.placed_served hw rfl,
    ho.endings_add (.taken (call_add (hoffers w List.mem_cons_self)) call_add_last), ?_, ?_⟩
  · simpa [handover?, first] using ho.sends
  · have hr := pairwise_snoc ho.receives fun _ hi => ho.lt_of_receive hi
    simpa [handover?, nobody] using hr

omit [DecidableEq σ] in
lemma Orderly.callers_nodup (ho : h.Orderly) : (h.handoff.waiting.map (·.2)).Nodup :=
  (List.nodup_append.mp ho.nodup).1

lemma Orderly.mem_listening (ho : h.Orderly) {w : σ × Nat} (hw : w ∈ h.handoff.waiting)
    (signal : σ) : w.2 ∈ h.handoff.listening signal ↔ w.1 = signal :=
  Handoff.mem_listening ho.listeners ho.callers_nodup hw signal

/-- The abort of a signal cancels the calls that wait with it. -/
lemma Orderly.aborted (ho : h.Orderly) {signal : σ} {handoff : Handoff Nat σ α} (reason : Failure)
    (hs : handoff.senders =
      h.handoff.senders.filter (·.call ∉ h.handoff.listening signal))
    (hr : handoff.receivers =
      h.handoff.receivers.filter (·.call ∉ h.handoff.listening signal))
    (hl : handoff.listeners = h.handoff.listeners.filter (·.1 ≠ signal)) :
    (h.add [] (handoff,
      (h.handoff.listening signal).map fun call => (call, .cancelled reason))).Orderly := by
  have hw : handoff.waiting = h.handoff.waiting.filter (·.1 ≠ signal) := by
    have he : handoff.waiting =
        h.handoff.waiting.filter (·.2 ∉ h.handoff.listening signal) := by
      simp [Handoff.waiting, hs, hr, List.filter_map, Function.comp_def]
    rw [he]
    refine List.filter_congr fun x hx => ?_
    simp [ho.mem_listening hx]
  -- The abort divides the waiting calls into those that go on waiting and those it ends.
  have hdivided : ((handoff.waiting.map (·.2)) ++ h.handoff.listening signal).Perm
      (h.handoff.waiting.map (·.2)) := by
    have hd := (List.filter_append_perm (fun x => decide (x.1 = signal)) h.handoff.waiting).map
      fun x : σ × Nat => x.2
    have hc := (ho.listeners.filter fun x => decide (x.1 = signal)).map fun x : σ × Nat => x.2
    rw [List.map_append] at hd
    rw [hw]
    have hn := (hc.append_right _).trans hd
    simpa [Handoff.listening] using List.perm_append_comm.trans hn
  refine ⟨?_, ?_, ?_, ?_, ?_, ho.endings_add (.cancels _ reason), ?_, ?_⟩
  · rcases ho.oneSided with hnone | hnone
    · exact Or.inl (by simp [hs, hnone])
    · exact Or.inr (by simp [hr, hnone])
  · intro w hm
    exact call_add (ho.offers w (List.mem_of_mem_filter (hs ▸ hm)))
  · intro w hm
    exact call_add (ho.asks w (List.mem_of_mem_filter (hr ▸ hm)))
  · rw [handoff_add, hl, hw]
    exact ho.listeners.filter _
  · have hp := (hdivided.append_right (h.ended.map (·.1))).trans ho.placed
    rw [List.perm_iff_count] at hp ⊢
    intro i
    have := hp i
    simp [Function.comp_def] at this ⊢
    omega
  · have hk : (handoff.senders.map (·.call)).Sublist (h.handoff.senders.map (·.call)) := by
      rw [hs]
      exact List.filter_sublist.map _
    simpa using ho.sends.sublist (hk.append_left _)
  · have hk : (handoff.receivers.map (·.call)).Sublist (h.handoff.receivers.map (·.call)) := by
      rw [hr]
      exact List.filter_sublist.map _
    simpa using ho.receives.sublist (hk.append_left _)

/-- Every event keeps the order. -/
theorem Orderly.step (ho : h.Orderly) (event : HandoffEvent σ α) : (h.step event).Orderly := by
  cases event with
  | send value signal =>
    rcases h.handoff.send_cases h.calls.length value signal with
      ⟨reason, he⟩ | ⟨w, rest, first, he⟩ | ⟨nobody, he⟩ <;> simp only [HandoffHistory.step, he]
    · exact ho.refused (some value) reason
    · exact ho.handed value first
    · exact ho.held value signal nobody
  | receive signal =>
    rcases h.handoff.receive_cases h.calls.length signal with
      ⟨reason, he⟩ | ⟨w, rest, first, he⟩ | ⟨nobody, he⟩ <;> simp only [HandoffHistory.step, he]
    · exact ho.refused none reason
    · exact ho.taken first
    · exact ho.asked signal nobody
  | abort signal reason =>
    rcases h.handoff.abort_cases signal reason with he | he <;> simp only [HandoffHistory.step, he]
    · exact ho.unchanged
    · exact ho.aborted reason rfl rfl rfl

/-- Every history of a fresh hand-off is orderly. -/
theorem orderly_after (events : List (HandoffEvent σ α)) : (after events).Orderly := by
  induction events using List.reverseRecOn with
  | nil => exact ⟨Or.inl rfl, by simp [after], by simp [after], .nil, .nil, by simp [after],
      .nil, .nil⟩
  | append_singleton events event ih =>
    unfold after at ih ⊢
    rw [List.foldl_append]
    exact ih.step event

lemma after_append (events more : List (HandoffEvent σ α)) :
    after (events ++ more) = more.foldl step (after events) := by
  simp [after]

/-- An event only adds to what has ended, and to the calls that have been made. -/
lemma step_extends (h : HandoffHistory σ α) (event : HandoffEvent σ α) :
    ∃ made result, h.step event = h.add made result := by
  cases event with
  | send value signal => exact ⟨_, _, rfl⟩
  | receive signal => exact ⟨_, _, rfl⟩
  | abort signal reason => exact ⟨_, _, rfl⟩

lemma extends_foldl (h : HandoffHistory σ α) (more : List (HandoffEvent σ α)) :
    h.calls.length ≤ (more.foldl step h).calls.length ∧ h.ended ⊆ (more.foldl step h).ended := by
  induction more generalizing h with
  | nil => exact ⟨le_rfl, List.Subset.refl _⟩
  | cons event more ih =>
    obtain ⟨made, result, he⟩ := h.step_extends event
    obtain ⟨hcalls, hended⟩ := ih (h.step event)
    rw [he, calls_add, List.length_append] at hcalls
    refine ⟨(Nat.le_add_right _ _).trans (he ▸ hcalls), fun e hm => hended ?_⟩
    rw [he, ended_add]
    exact List.mem_append_left _ hm

end

section

variable {h : HandoffHistory σ α}

/-- A call that has been made is in exactly one state. -/
lemma Orderly.states_single (ho : h.Orderly) {call : Nat} (hc : call < h.calls.length) :
    ∃ state, h.states call = [state] := by
  have hcount := ho.placed.count_eq call
  rw [List.nodup_range.count, if_pos (List.mem_range.mpr hc), List.count_append] at hcount
  have hl : (h.states call).length = 1 := by
    rw [← hcount]
    simp [states, List.count, List.filter_map, List.countP_eq_length_filter, Function.comp_def,
      beq_eq_decide]
  exact List.length_eq_one_iff.mp hl

lemma mem_states_of_ended {call : Nat} {outcome : CallOutcome α} (he : (call, outcome) ∈ h.ended) :
    outcome.state ∈ h.states call :=
  List.mem_append_right _ (List.mem_map.mpr
    ⟨_, List.mem_filter.mpr ⟨he, decide_eq_true rfl⟩, rfl⟩)

lemma ended_of_mem_states {call : Nat} {state : CallState} (hs : state ∈ h.states call)
    (settled : state ≠ .waiting) : ∃ outcome, (call, outcome) ∈ h.ended ∧ outcome.state = state := by
  rcases List.mem_append.mp hs with hw | he
  · obtain ⟨-, -, rfl⟩ := List.mem_map.mp hw
    exact absurd rfl settled
  · obtain ⟨⟨c, outcome⟩, hm, ho⟩ := List.mem_map.mp he
    obtain ⟨hended, hc⟩ := List.mem_filter.mp hm
    obtain rfl : c = call := of_decide_eq_true hc
    exact ⟨outcome, hended, ho⟩

/-- A call is fulfilled only by an event that hands the value of a send to a receive. -/
lemma Orderly.fulfilled_cases (ho : h.Orderly) {ended : List (Nat × CallOutcome α)}
    (hm : ended ∈ h.endings) {e : Nat × CallOutcome α} (he : e ∈ ended)
    (hf : e.2.state = .fulfilled) :
    ∃ s r value, (s, r) ∈ h.handovers ∧ h.calls[s]? = some (some value) ∧
      h.calls[r]? = some none ∧ (s, .sent) ∈ ended ∧ (r, .received value) ∈ ended ∧
      (e = (s, .sent) ∨ e = (r, .received value)) := by
  cases ho.endings ended hm with
  | cancels calls reason =>
    obtain ⟨call, -, rfl⟩ := List.mem_map.mp he
    cases hf
  | @taken s r value send receive =>
    exact ⟨s, r, value, List.mem_filterMap.mpr ⟨_, hm, rfl⟩, send, receive, by simp, by simp,
      by simpa using he⟩
  | @handed s r value send receive =>
    exact ⟨s, r, value, List.mem_filterMap.mpr ⟨_, hm, rfl⟩, send, receive, by simp, by simp,
      by simpa [or_comm] using he⟩

/-- The sends that were handed over are the fulfilled ones, in the order in which they were made. -/
lemma Orderly.handovers_sends (ho : h.Orderly) : h.handovers.map (·.1) = h.fulfilledSends := by
  have hsorted : (h.handovers.map (·.1)).Pairwise (· < ·) := (List.pairwise_append.mp ho.sends).1
  refine hsorted.eq_of_mem_iff (List.pairwise_lt_range.filter _) fun s => ?_
  constructor
  · intro hs
    obtain ⟨p, hp, rfl⟩ := List.mem_map.mp hs
    obtain ⟨value, hv, -, he, -⟩ := ho.of_handover hp
    have hf : CallState.fulfilled ∈ h.states p.1 := mem_states_of_ended he
    exact List.mem_filter.mpr ⟨List.mem_range.mpr (ho.lt_of_ended he), by simp [value?, hv, hf]⟩
  · intro hs
    obtain ⟨-, hs⟩ := List.mem_filter.mp hs
    obtain ⟨hv, hf⟩ := Bool.and_eq_true_iff.mp hs
    obtain ⟨outcome, he, hf⟩ := ended_of_mem_states (of_decide_eq_true hf) (by decide)
    obtain ⟨ended, hm, he⟩ := List.mem_flatten.mp he
    obtain ⟨s', r, value, hp, -, hr, -, -, hor⟩ := ho.fulfilled_cases hm he hf
    rcases hor with heq | heq <;> obtain ⟨rfl, -⟩ := Prod.mk.inj heq
    · exact List.mem_map.mpr ⟨(s, r), hp, rfl⟩
    · simp [value?, hr] at hv

/-- The receives that took a value are the fulfilled ones, in the order in which they were made. -/
lemma Orderly.handovers_receives (ho : h.Orderly) :
    h.handovers.map (·.2) = h.fulfilledReceives := by
  have hsorted : (h.handovers.map (·.2)).Pairwise (· < ·) :=
    (List.pairwise_append.mp ho.receives).1
  refine hsorted.eq_of_mem_iff (List.pairwise_lt_range.filter _) fun r => ?_
  constructor
  · intro hr
    obtain ⟨p, hp, rfl⟩ := List.mem_map.mp hr
    obtain ⟨value, -, hv, -, he⟩ := ho.of_handover hp
    have hf : CallState.fulfilled ∈ h.states p.2 := mem_states_of_ended he
    exact List.mem_filter.mpr ⟨List.mem_range.mpr (ho.lt_of_ended he), by simp [value?, hv, hf]⟩
  · intro hr
    obtain ⟨-, hr⟩ := List.mem_filter.mp hr
    obtain ⟨hv, hf⟩ := Bool.and_eq_true_iff.mp hr
    obtain ⟨outcome, he, hf⟩ := ended_of_mem_states (of_decide_eq_true hf) (by decide)
    obtain ⟨ended, hm, he⟩ := List.mem_flatten.mp he
    obtain ⟨s, r', value, hp, hs, -, -, -, hor⟩ := ho.fulfilled_cases hm he hf
    rcases hor with heq | heq <;> obtain ⟨rfl, -⟩ := Prod.mk.inj heq
    · simp [value?, hs] at hv
    · exact List.mem_map.mpr ⟨(s, r), hp, rfl⟩

/-- The fulfilled sends and receives that stand in the same position were fulfilled together. -/
lemma Orderly.handover_iff (ho : h.Orderly) {i s r : Nat} :
    h.handovers[i]? = some (s, r) ↔
      h.fulfilledSends[i]? = some s ∧ h.fulfilledReceives[i]? = some r := by
  rw [← ho.handovers_sends, ← ho.handovers_receives, List.getElem?_map, List.getElem?_map]
  cases h.handovers[i]? <;> simp [Prod.ext_iff]

end

variable [DecidableEq σ]

/-- A hand-off serves any number of callers in order and each of them once, for every sequence of
sends, receives and aborts. Every call waits, has been fulfilled or has been cancelled, and it is in
one of these states only; a call that has ended stays as it is. As many sends as receives are
fulfilled, and in the order in which they were made each receive returns the value of the send in the
same position. A send is fulfilled by the event that hands its value to a receive, and a receive
returns nothing but the value of a send that is fulfilled: the value of a send that waits or has been
cancelled, when it is the value of no other send, is not returned. -/
theorem delivered_once_in_order (events : List (HandoffEvent σ α)) :
    let h := after events
    (∀ call < h.calls.length, ∃ state, h.states call = [state]) ∧
    (∀ call, ∀ state ≠ .waiting, h.states call = [state] →
      ∀ more, (after (events ++ more)).states call = [state]) ∧
    h.fulfilledSends.length = h.fulfilledReceives.length ∧
    (∀ (i : Nat) (s r : Nat), h.fulfilledSends[i]? = some s → h.fulfilledReceives[i]? = some r →
      ∃ value, h.value? s = some value ∧ (r, .received value) ∈ h.ended) ∧
    (∀ ended ∈ h.endings, ∀ s, (s, .sent) ∈ ended →
      ∃ r value, h.value? s = some value ∧ (r, .received value) ∈ ended) ∧
    (∀ r value, (r, .received value) ∈ h.ended →
      ∃ (i : Nat) (s : Nat), h.value? s = some value ∧
        h.fulfilledSends[i]? = some s ∧ h.fulfilledReceives[i]? = some r) ∧
    (∀ s value, h.value? s = some value → .fulfilled ∉ h.states s →
      (∀ other, h.value? other = some value → other = s) →
      ∀ r, (r, .received value) ∉ h.ended) := by
  intro h
  have ho : h.Orderly := orderly_after events
  have hreturned : ∀ r value, (r, .received value) ∈ h.ended →
      ∃ (i : Nat) (s : Nat), h.value? s = some value ∧
        h.fulfilledSends[i]? = some s ∧ h.fulfilledReceives[i]? = some r := by
    intro r value he
    obtain ⟨ended, hm, he⟩ := List.mem_flatten.mp he
    obtain ⟨s, r', value', hp, hs, hr, -, -, hor⟩ := ho.fulfilled_cases hm he rfl
    rcases hor with heq | heq <;> cases heq
    obtain ⟨i, hi⟩ := List.mem_iff_getElem?.mp hp
    exact ⟨i, s, by simp [value?, hs], ho.handover_iff.mp hi⟩
  refine ⟨fun call => ho.states_single, ?_, ?_, ?_, ?_, hreturned, ?_⟩
  · intro call state settled hs more
    have hmem : state ∈ h.states call := hs ▸ List.mem_singleton_self state
    obtain ⟨outcome, he, rfl⟩ := ended_of_mem_states hmem settled
    have ho' := orderly_after (events ++ more)
    obtain ⟨hlt, hsub⟩ := h.extends_foldl more
    rw [← after_append] at hlt hsub
    obtain ⟨state, hs'⟩ := ho'.states_single ((ho.lt_of_ended he).trans_le hlt)
    have hm : outcome.state ∈ (after (events ++ more)).states call :=
      mem_states_of_ended (hsub he)
    rw [hs', List.mem_singleton] at hm
    rw [hs', hm]
  · rw [← ho.handovers_sends, ← ho.handovers_receives, List.length_map, List.length_map]
  · intro i s r hs hr
    have hp := List.mem_of_getElem? (ho.handover_iff.mpr ⟨hs, hr⟩)
    obtain ⟨value, hv, -, -, he⟩ := ho.of_handover hp
    exact ⟨value, by simp [value?, hv], he⟩
  · intro ended hm s he
    obtain ⟨s', r, value, -, hv, -, -, hr, hor⟩ := ho.fulfilled_cases hm he rfl
    rcases hor with heq | heq <;> cases heq
    exact ⟨r, value, by simp [value?, hv], hr⟩
  · intro s value hv waits alone r he
    obtain ⟨i, s', hv', hs', -⟩ := hreturned r value he
    obtain rfl := alone s' hv'
    obtain ⟨-, hf⟩ := List.mem_filter.mp (List.mem_of_getElem? hs')
    exact waits (of_decide_eq_true (Bool.and_eq_true_iff.mp hf).2)

/-- The first of two waiting sends is cancelled, so the receive returns the value of the second. -/
example :
    let h := after [.send 'a' 0, .send 'b' 1, .abort 0 .absent, .receive (1 : Nat)]
    h.states 0 = [.cancelled] ∧ h.fulfilledSends = [1] ∧ h.fulfilledReceives = [2] ∧
      h.value? 1 = some 'b' := by
  decide

end HandoffHistory

end TelemetryBridge
