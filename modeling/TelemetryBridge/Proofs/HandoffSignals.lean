import TelemetryBridge.Proofs.HandoffHistory

/-!
# Signals of a hand-off

A call that waits listens to the signal it named, and no other call listens. So the abort of a signal
cancels the calls that wait with it and touches nothing else, and a signal that is aborted stays so:
whoever calls with it is refused at once.
-/

namespace TelemetryBridge

namespace Handoff

section

variable {κ σ α : Type} [DecidableEq σ] {h : Handoff κ σ α}

/-- The calls that wait with a signal. -/
def waitingWith (h : Handoff κ σ α) (signal : σ) : List κ :=
  (h.waiting.filter (·.1 = signal)).map (·.2)

lemma mem_waitingWith {signal : σ} {call : κ} :
    call ∈ h.waitingWith signal ↔ (signal, call) ∈ h.waiting := by
  simp [waitingWith]

/-- The listeners are the calls that wait, and none of them waits with an aborted signal. -/
structure Attentive (h : Handoff κ σ α) : Prop where
  listeners : h.listeners = h.waiting
  current : ∀ w ∈ h.waiting, h.reason? w.1 = none

lemma Attentive.listening (ha : h.Attentive) (signal : σ) :
    h.listening signal = h.waitingWith signal := by
  rw [Handoff.listening, ha.listeners, waitingWith]

end

section

variable {κ σ α : Type} [DecidableEq κ] [DecidableEq σ] {h : Handoff κ σ α}

section

variable {signal : σ} {reason : Failure}

lemma send_of_aborted (hr : h.reason? signal = some reason) (call : κ) (value : α) :
    h.send call value signal = (h, [(call, .cancelled reason)]) := by
  rw [send, hr]

lemma receive_of_aborted (hr : h.reason? signal = some reason) (call : κ) :
    h.receive call signal = (h, [(call, .cancelled reason)]) := by
  rw [receive, hr]

lemma abort_of_aborted (hr : h.reason? signal = some reason) (again : Failure) :
    h.abort signal again = (h, []) := by
  rw [abort, hr]

lemma abort_of_current (hr : h.reason? signal = none) (reason : Failure) :
    h.abort signal reason =
      ({ senders := h.senders.filter (·.call ∉ h.listening signal)
         receivers := h.receivers.filter (·.call ∉ h.listening signal)
         listeners := h.listeners.filter (·.1 ≠ signal)
         aborted := h.aborted ++ [(signal, reason)] },
        (h.listening signal).map fun call => (call, .cancelled reason)) := by
  rw [abort, hr]

end

lemma reason?_send (call : κ) (value : α) (signal s : σ) :
    (h.send call value signal).1.reason? s = h.reason? s := by
  rcases h.send_cases call value signal with
    ⟨reason, he⟩ | ⟨w, rest, -, he⟩ | ⟨-, he⟩ <;> rw [he] <;> rfl

lemma reason?_receive (call : κ) (signal s : σ) :
    (h.receive call signal).1.reason? s = h.reason? s := by
  rcases h.receive_cases call signal with
    ⟨reason, he⟩ | ⟨w, rest, -, he⟩ | ⟨-, he⟩ <;> rw [he] <;> rfl

lemma reason?_abort {signal : σ} (hr : h.reason? signal = none) (reason : Failure) (s : σ) :
    (h.abort signal reason).1.reason? s = if s = signal then some reason else h.reason? s := by
  rw [abort_of_current hr]
  change (h.aborted ++ [(signal, reason)]).lookup s = _
  rw [List.lookup_append]
  by_cases hs : s = signal
  · subst hs
    have hnone : h.aborted.lookup s = none := hr
    simp [hnone]
  · rw [if_neg hs, List.lookup_cons, beq_false_of_ne hs, List.lookup_nil, Option.or_none]
    rfl

/-- An aborted signal keeps its reason. -/
lemma reason?_abort_of_aborted {signal s : σ} {reason old : Failure}
    (hs : h.reason? s = some old) : (h.abort signal reason).1.reason? s = some old := by
  cases hr : h.reason? signal with
  | some first => rw [abort_of_aborted hr, hs]
  | none =>
    have hne : s ≠ signal := by
      rintro rfl
      rw [hs] at hr
      cases hr
    rw [reason?_abort hr, if_neg hne, hs]

lemma filter_ne_head {w : σ × κ} {rest : List (σ × κ)} (hn : (w :: rest).Nodup) :
    (w :: rest).filter (· ≠ w) = rest := by
  have he := hn.erase_eq_filter w
  rw [List.erase_cons_head] at he
  simpa [bne_iff_ne] using he.symm

/-- The call that waits first is served: it stops listening. -/
lemma Attentive.served (ha : h.Attentive) (hn : h.waiting.Nodup) {h' : Handoff κ σ α} {w : σ × κ}
    (hw : h.waiting = w :: h'.waiting) (hl : h'.listeners = h.listeners.filter (· ≠ w))
    (hr : h'.aborted = h.aborted) : h'.Attentive := by
  constructor
  · rw [hl, ha.listeners, hw, filter_ne_head (hw ▸ hn)]
  · intro x hx
    have hx' : x ∈ h.waiting := by
      rw [hw]
      exact List.mem_cons_of_mem _ hx
    rw [reason?, hr]
    exact ha.current x hx'

omit [DecidableEq κ] in
/-- A call that has to wait begins to listen. -/
lemma Attentive.held (ha : h.Attentive) {h' : Handoff κ σ α} {w : σ × κ}
    (hw : h'.waiting = h.waiting ++ [w]) (hl : h'.listeners = h.listeners ++ [w])
    (hr : h'.aborted = h.aborted) (current : h.reason? w.1 = none) : h'.Attentive := by
  constructor
  · rw [hl, hw, ha.listeners]
  · intro x hx
    rw [hw] at hx
    rw [reason?, hr]
    rcases List.mem_append.mp hx with hx | hx
    · exact ha.current x hx
    · rw [List.mem_singleton.mp hx]
      exact current

lemma Attentive.send (ha : h.Attentive) (oneSided : h.senders = [] ∨ h.receivers = [])
    (hn : h.waiting.Nodup) (call : κ) (value : α) (signal : σ) :
    (h.send call value signal).1.Attentive := by
  cases hr : h.reason? signal with
  | some reason =>
    rw [send_of_aborted hr]
    exact ha
  | none =>
    rcases h.send_cases call value signal with
      ⟨reason, he⟩ | ⟨w, rest, first, he⟩ | ⟨nobody, he⟩ <;> rw [he]
    · exact ha
    · have hs : h.senders = [] := by simpa [first] using oneSided
      refine ha.served hn (w := (w.signal, w.call)) ?_ rfl rfl
      simp [waiting, hs, first]
    · refine ha.held (w := (signal, call)) ?_ rfl rfl hr
      simp [waiting, nobody]

lemma Attentive.receive (ha : h.Attentive) (oneSided : h.senders = [] ∨ h.receivers = [])
    (hn : h.waiting.Nodup) (call : κ) (signal : σ) : (h.receive call signal).1.Attentive := by
  cases hr : h.reason? signal with
  | some reason =>
    rw [receive_of_aborted hr]
    exact ha
  | none =>
    rcases h.receive_cases call signal with
      ⟨reason, he⟩ | ⟨w, rest, first, he⟩ | ⟨nobody, he⟩ <;> rw [he]
    · exact ha
    · have hr : h.receivers = [] := by simpa [first] using oneSided
      refine ha.served hn (w := (w.signal, w.call)) ?_ rfl rfl
      simp [waiting, hr, first]
    · refine ha.held (w := (signal, call)) ?_ rfl rfl hr
      simp [waiting, nobody]

section

variable (hl : h.listeners.Perm h.waiting) (hn : (h.waiting.map (·.2)).Nodup)
include hl hn

/-- The abort of a signal leaves the sends of other signals where they are. -/
lemma senders_abort {signal : σ} (hr : h.reason? signal = none) (reason : Failure) :
    (h.abort signal reason).1.senders = h.senders.filter (·.signal ≠ signal) := by
  rw [abort_of_current hr]
  apply List.filter_congr
  intro w hw
  have hw' : (w.signal, w.call) ∈ h.waiting := List.mem_append_left _ (List.mem_map_of_mem hw)
  simp [mem_listening hl hn hw' signal]

lemma receivers_abort {signal : σ} (hr : h.reason? signal = none) (reason : Failure) :
    (h.abort signal reason).1.receivers = h.receivers.filter (·.signal ≠ signal) := by
  rw [abort_of_current hr]
  apply List.filter_congr
  intro w hw
  have hw' : (w.signal, w.call) ∈ h.waiting := List.mem_append_right _ (List.mem_map_of_mem hw)
  simp [mem_listening hl hn hw' signal]

lemma waiting_abort {signal : σ} (hr : h.reason? signal = none) (reason : Failure) :
    (h.abort signal reason).1.waiting = h.waiting.filter (·.1 ≠ signal) := by
  rw [waiting, senders_abort hl hn hr, receivers_abort hl hn hr, waiting, List.filter_append,
    List.filter_map, List.filter_map]
  rfl

end

lemma Attentive.abort (ha : h.Attentive) (hn : (h.waiting.map (·.2)).Nodup) (signal : σ)
    (reason : Failure) : (h.abort signal reason).1.Attentive := by
  cases hr : h.reason? signal with
  | some old =>
    rw [abort_of_aborted hr]
    exact ha
  | none =>
    have hwaiting := waiting_abort (List.Perm.of_eq ha.listeners) hn hr reason
    constructor
    · rw [hwaiting, ← ha.listeners, abort_of_current hr]
    · intro w hw
      rw [hwaiting] at hw
      obtain ⟨hw, hne⟩ := List.mem_filter.mp hw
      rw [reason?_abort hr, if_neg (by simpa using hne)]
      exact ha.current w hw

end

end Handoff

namespace HandoffHistory

variable {σ α : Type} [DecidableEq σ] {h : HandoffHistory σ α}

omit [DecidableEq σ] in
lemma Orderly.waiting_nodup (ho : h.Orderly) : h.handoff.waiting.Nodup := ho.callers_nodup.of_map

lemma Orderly.senders_abort (ho : h.Orderly) {signal : σ} (hr : h.handoff.reason? signal = none)
    (reason : Failure) : (h.handoff.abort signal reason).1.senders =
      h.handoff.senders.filter (·.signal ≠ signal) :=
  Handoff.senders_abort ho.listeners ho.callers_nodup hr reason

lemma Orderly.receivers_abort (ho : h.Orderly) {signal : σ} (hr : h.handoff.reason? signal = none)
    (reason : Failure) : (h.handoff.abort signal reason).1.receivers =
      h.handoff.receivers.filter (·.signal ≠ signal) :=
  Handoff.receivers_abort ho.listeners ho.callers_nodup hr reason

lemma Orderly.waiting_abort (ho : h.Orderly) {signal : σ} (hr : h.handoff.reason? signal = none)
    (reason : Failure) : (h.handoff.abort signal reason).1.waiting =
      h.handoff.waiting.filter (·.1 ≠ signal) :=
  Handoff.waiting_abort ho.listeners ho.callers_nodup hr reason

/-- Every event leaves those that wait listening. -/
theorem Orderly.attentive_step (ho : h.Orderly) (ha : h.handoff.Attentive)
    (event : HandoffEvent σ α) : (h.step event).handoff.Attentive := by
  cases event with
  | send value signal => exact ha.send ho.oneSided ho.waiting_nodup _ value signal
  | receive signal => exact ha.receive ho.oneSided ho.waiting_nodup _ signal
  | abort signal reason => exact ha.abort ho.callers_nodup signal reason

theorem attentive_after (events : List (HandoffEvent σ α)) : (after events).handoff.Attentive := by
  induction events using List.reverseRecOn with
  | nil => exact ⟨rfl, by simp [after, Handoff.waiting]⟩
  | append_singleton events event ih =>
    rw [after_append]
    exact (orderly_after events).attentive_step ih event

lemma reason?_step {signal : σ} {reason : Failure} (hr : h.handoff.reason? signal = some reason)
    (event : HandoffEvent σ α) : (h.step event).handoff.reason? signal = some reason := by
  cases event with
  | send value s => exact (Handoff.reason?_send _ value s signal).trans hr
  | receive s => exact (Handoff.reason?_receive _ s signal).trans hr
  | abort s again => exact Handoff.reason?_abort_of_aborted hr

/-- A signal that is aborted stays aborted, for the same reason. -/
lemma reason?_after_append {events : List (HandoffEvent σ α)} {signal : σ} {reason : Failure}
    (hr : (after events).handoff.reason? signal = some reason) (more : List (HandoffEvent σ α)) :
    (after (events ++ more)).handoff.reason? signal = some reason := by
  induction more using List.reverseRecOn with
  | nil => rwa [List.append_nil]
  | append_singleton more event ih =>
    rw [← List.append_assoc, after_append]
    exact reason?_step ih event

lemma ended_abort (ha : h.handoff.Attentive) {signal : σ}
    (hr : h.handoff.reason? signal = none) (reason : Failure) :
    (h.step (.abort signal reason)).ended =
      h.ended ++ (h.handoff.waitingWith signal).map fun call => (call, .cancelled reason) := by
  rw [step, ended_add, Handoff.abort_of_current hr, ← ha.listening]

/-- The abort of a signal ends the calls that wait with it. Every other call stays as it is. -/
lemma Orderly.states_abort (ho : h.Orderly) (ha : h.handoff.Attentive) {signal : σ}
    (hr : h.handoff.reason? signal = none) (reason : Failure) (call : Nat) :
    (h.step (.abort signal reason)).states call =
      if call ∈ h.handoff.waitingWith signal then [.cancelled] else h.states call := by
  have hwaiting : (h.step (.abort signal reason)).handoff.waiting =
      h.handoff.waiting.filter (·.1 ≠ signal) := ho.waiting_abort hr reason
  have hended := ended_abort ha hr reason
  by_cases hc : call ∈ h.handoff.waitingWith signal
  · rw [if_pos hc]
    have hwaits : (signal, call) ∈ h.handoff.waiting := Handoff.mem_waitingWith.mp hc
    have hlt : call < h.calls.length := List.mem_range.mp (ho.placed.mem_iff.mp
      (List.mem_append_left _ (List.mem_map_of_mem hwaits)))
    have hlt' : call < (h.step (.abort signal reason)).calls.length := by
      simpa [HandoffHistory.step] using hlt
    obtain ⟨state, hs⟩ := (ho.step (.abort signal reason)).states_single hlt'
    have hcancelled : (call, CallOutcome.cancelled reason) ∈
        (h.step (.abort signal reason)).ended := by
      rw [hended]
      exact List.mem_append_right _ (List.mem_map_of_mem hc)
    have hm := mem_states_of_ended hcancelled
    rw [hs, List.mem_singleton] at hm
    rw [hs, ← hm]
    rfl
  · rw [if_neg hc]
    have hkept : (h.handoff.waiting.filter (·.1 ≠ signal)).filter (·.2 = call) =
        h.handoff.waiting.filter (·.2 = call) := by
      rw [List.filter_filter]
      apply List.filter_congr
      intro w hw
      by_cases hcall : w.2 = call
      · have hother : w.1 ≠ signal := by
          rintro rfl
          exact hc (Handoff.mem_waitingWith.mpr (hcall ▸ hw))
        simp [hcall, hother]
      · simp [hcall]
    have hnone : ((h.handoff.waitingWith signal).map fun call =>
        (call, (CallOutcome.cancelled reason : CallOutcome α))).filter (·.1 = call) = [] := by
      apply List.filter_eq_nil_iff.mpr
      intro e he
      obtain ⟨other, hother, rfl⟩ := List.mem_map.mp he
      simpa using fun heq : other = call => hc (heq ▸ hother)
    rw [states, hwaiting, hkept, hended, List.filter_append, hnone, List.append_nil, states]

/-- A call listens as long as it waits. -/
lemma Orderly.waits_iff (ho : h.Orderly) (ha : h.handoff.Attentive) {call : Nat}
    (hlt : call < h.calls.length) :
    h.states call = [.waiting] ↔ ∃ signal, call ∈ h.handoff.listening signal := by
  obtain ⟨state, hs⟩ := ho.states_single hlt
  constructor
  · intro hw
    have hm : CallState.waiting ∈ h.states call := by simp [hw]
    rcases List.mem_append.mp hm with hm | hm
    · obtain ⟨w, hw, -⟩ := List.mem_map.mp hm
      obtain ⟨hw, hcall⟩ := List.mem_filter.mp hw
      refine ⟨w.1, ?_⟩
      rw [ha.listening, Handoff.mem_waitingWith, ← of_decide_eq_true hcall]
      exact hw
    · obtain ⟨⟨_, outcome⟩, -, hstate⟩ := List.mem_map.mp hm
      cases outcome <;> cases hstate
  · rintro ⟨signal, hl⟩
    rw [ha.listening, Handoff.mem_waitingWith] at hl
    have hm : CallState.waiting ∈ h.states call :=
      List.mem_append_left _ (List.mem_map.mpr
        ⟨(signal, call), List.mem_filter.mpr ⟨hl, decide_eq_true rfl⟩, rfl⟩)
    rw [hs, List.mem_singleton] at hm
    rw [hs, ← hm]

/-- Whatever callers do, nobody waits on one side while somebody waits on the other, nobody waits
with an aborted signal, and those that listen to a signal are those that wait with it, in order. So
the abort of a signal cancels the calls that wait with it, for the reason the signal then has; those
that wait with other signals go on waiting in the same order, and no other call changes. From then on
the signal stays aborted: another abort changes nothing, and a call with it is cancelled at once and
leaves the hand-off as it was. -/
theorem abort_cancels_waiting_calls (events : List (HandoffEvent σ α)) :
    let h := after events
    (h.handoff.senders = [] ∨ h.handoff.receivers = []) ∧
    (∀ w ∈ h.handoff.waiting, h.handoff.reason? w.1 = none) ∧
    (∀ signal, h.handoff.listening signal = h.handoff.waitingWith signal) ∧
    (∀ call < h.calls.length,
      h.states call = [.waiting] ↔ ∃ signal, call ∈ h.handoff.listening signal) ∧
    (∀ signal reason, h.handoff.reason? signal = none →
      let h' := after (events ++ [.abort signal reason])
      h'.handoff.reason? signal = some reason ∧
      h'.ended = h.ended ++
        (h.handoff.waitingWith signal).map (fun call => (call, .cancelled reason)) ∧
      h'.handoff.senders = h.handoff.senders.filter (·.signal ≠ signal) ∧
      h'.handoff.receivers = h.handoff.receivers.filter (·.signal ≠ signal) ∧
      ∀ call, h'.states call =
        if call ∈ h.handoff.waitingWith signal then [.cancelled] else h.states call) ∧
    ∀ signal reason, h.handoff.reason? signal = some reason → ∀ more,
      let h' := after (events ++ more)
      (∀ again, h'.handoff.abort signal again = (h'.handoff, [])) ∧
      (∀ call value, h'.handoff.send call value signal =
        (h'.handoff, [(call, .cancelled reason)])) ∧
      ∀ call, h'.handoff.receive call signal = (h'.handoff, [(call, .cancelled reason)]) := by
  intro h
  have ho : h.Orderly := orderly_after events
  have ha : h.handoff.Attentive := attentive_after events
  refine ⟨ho.oneSided, ha.current, ha.listening, fun call hlt => ho.waits_iff ha hlt, ?_, ?_⟩
  · intro signal reason hr
    rw [after_append]
    refine ⟨?_, ended_abort ha hr reason, ho.senders_abort hr reason,
      ho.receivers_abort hr reason, ho.states_abort ha hr reason⟩
    have hreason := Handoff.reason?_abort hr reason signal
    rwa [if_pos rfl] at hreason
  · intro signal reason hr more
    have hr' := reason?_after_append hr more
    exact ⟨Handoff.abort_of_aborted hr', fun call => Handoff.send_of_aborted hr' call,
      fun call => Handoff.receive_of_aborted hr' call⟩

end HandoffHistory

end TelemetryBridge
