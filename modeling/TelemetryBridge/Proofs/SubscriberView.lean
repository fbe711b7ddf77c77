import TelemetryBridge.Proofs.HandoffSignals
import TelemetryBridge.Proofs.SubscriberRounds

/-!
# What a subscribe session sees

The deliveries and the hand-off of a relay, as far as they concern its subscribe session. Whatever
others do, that is the streams, the publish session, guests who take updates and whoever aborts a
signal, leaves the session where it is in its rounds, or serves or cancels its offer.
-/

namespace TelemetryBridge

open SubscribeSession

/-- Of calls that all name the signal of the sessions, a signal concerns all or none. -/
lemma Scope.filter_session {α : Type} {calls : List α} {f : α → Scope}
    (h : ∀ w ∈ calls, f w = .session) (signal : Scope) :
    calls.filter (f · = signal) = (if signal = .session then calls else []) ∧
      calls.filter (f · ≠ signal) = if signal = .session then [] else calls := by
  cases signal with
  | session =>
    exact ⟨List.filter_eq_self.mpr fun w hw => by simp [h w hw],
      List.filter_eq_nil_iff.mpr fun w hw => by simp [h w hw]⟩
  | guest number =>
    exact ⟨List.filter_eq_nil_iff.mpr fun w hw => by simp [h w hw],
      List.filter_eq_self.mpr fun w hw => by simp [h w hw]⟩

def Party.isSubscriber : Party → Bool
  | subscriber _ => true
  | _ => false

namespace Delivery

/-- The reply of the hand-off to a subscribe session. -/
def offered? : Delivery → Option (Except Failure Unit)
  | answer _ (.subscriber (.offered result)) => some result
  | _ => none

/-- The update that somebody has taken from the hand-off. -/
def taken? : Delivery → Option Update
  | guest _ (.received update) | answer _ (.publisher (.taken (.ok update))) => some update
  | _ => none

/-- The failure with which a subscribe session has ended. -/
def subscriberEnd? : Delivery → Option Failure
  | ended .subscribe failure => some failure
  | _ => none

section

variable {n : Nat} {a : Answer}

lemma offered?_of_isOfStream (h : a.isOfStream = true) : (answer n a).offered? = none := by
  cases a with
  | subscriber reply => cases reply with
    | offered result => cases h
    | requestSent result | received result => rfl
  | publisher reply => rfl
  | later a => rfl

lemma taken?_of_isOfStream (h : a.isOfStream = true) : (answer n a).taken? = none := by
  cases a with
  | publisher reply => cases reply with
    | taken result => cases h
    | sent result => rfl
  | subscriber reply => rfl
  | later a => rfl

end

lemma offered?_cancelled (call : Party) (reason : Failure) :
    (Relay.outcomeDelivery (call, .cancelled reason)).offered? =
      if call.isSubscriber then some (.error (.cancelled reason)) else none := by
  cases call <;> rfl

lemma offered?_sent (n : Nat) :
    (Relay.outcomeDelivery (.subscriber n, .sent)).offered? = some (.ok ()) := rfl

lemma taken?_sent (call : Party) : (Relay.outcomeDelivery (call, .sent)).taken? = none := by
  cases call <;> rfl

lemma offered?_received {call : Party} (h : call.isSubscriber = false) (update : Update) :
    (Relay.outcomeDelivery (call, .received update)).offered? = none := by
  cases call with
  | subscriber n => cases h
  | publisher n | guest n => rfl

lemma taken?_received {call : Party} (h : call.isSubscriber = false) (update : Update) :
    (Relay.outcomeDelivery (call, .received update)).taken? = some update := by
  cases call with
  | subscriber n => cases h
  | publisher n | guest n => rfl

lemma taken?_cancelled (call : Party) (reason : Failure) :
    (Relay.outcomeDelivery (call, .cancelled reason)).taken? = none := by
  cases call <;> rfl

/-- What is underway late from a stream is of the stream. -/
lemma isOfStream_of_late {answers : List Answer} (hs : ∀ a ∈ answers, a.isOfStream = true)
    {n m : Nat} {a : Answer} (hm : answer m (.later a) ∈ answers.map (answer n)) :
    a.isOfStream = true := by
  obtain ⟨a', ha', heq⟩ := List.mem_map.mp hm
  cases heq
  exact (Answer.isOfStream_later a).symm.trans (hs _ ha')

/-- The hand-off answers without delay. -/
lemma late_outcomeDelivery (results : List (Party × CallOutcome Update)) (m : Nat) (a : Answer) :
    answer m (.later a) ∉ results.map Relay.outcomeDelivery := by
  intro hm
  obtain ⟨⟨call, outcome⟩, -, heq⟩ := List.mem_map.mp hm
  cases call <;> cases outcome <;> cases heq

lemma subscriberEnd?_outcomeDelivery (result : Party × CallOutcome Update) :
    (Relay.outcomeDelivery result).subscriberEnd? = none := by
  obtain ⟨call, outcome⟩ := result
  cases call <;> cases outcome <;> rfl

end Delivery

namespace Handoff

variable {h : Handoff Party Scope Update}

/-- Only subscribe sessions offer updates, and they do not ask for any. -/
structure Apart (h : Handoff Party Scope Update) : Prop where
  asks : ∀ w ∈ h.receivers, w.call.isSubscriber = false
  listens : h.listeners.filter (·.2.isSubscriber) = h.senders.map fun w => (w.signal, w.call)

lemma Apart.listening (ha : h.Apart) (signal : Scope) :
    (h.listening signal).filter (·.isSubscriber) =
      (h.senders.filter (·.signal = signal)).map (·.call) := by
  have hl : (h.listeners.filter (·.2.isSubscriber)).filter (·.1 = signal) =
      (h.senders.filter (·.signal = signal)).map fun w => (w.signal, w.call) := by
    rw [ha.listens, List.filter_map]
    rfl
  rw [List.filter_filter] at hl
  rw [Handoff.listening, List.filter_map, List.filter_filter]
  simp only [Function.comp_def, Bool.and_comm] at hl ⊢
  rw [hl, List.map_map]
  rfl

lemma Apart.isSubscriber (ha : h.Apart) {w : WaitingSend Party Scope Update}
    (hw : w ∈ h.senders) : (w.signal, w.call) ∈ h.listeners ∧ w.call.isSubscriber = true := by
  have hm : (w.signal, w.call) ∈ h.senders.map fun w => (w.signal, w.call) :=
    List.mem_map_of_mem hw
  rw [← ha.listens] at hm
  exact List.mem_filter.mp hm

lemma Apart.receive (ha : h.Apart) (single : h.senders.length ≤ 1) {call : Party}
    (hc : call.isSubscriber = false) (signal : Scope) : (h.receive call signal).1.Apart := by
  rcases h.receive_cases call signal with
    ⟨reason, he⟩ | ⟨w, rest, first, he⟩ | ⟨nobody, he⟩ <;> rw [he]
  · exact ha
  · refine ⟨ha.asks, ?_⟩
    have hrest : rest = [] := by
      rw [first, List.length_cons] at single
      exact List.length_eq_zero_iff.mp (by omega)
    have hl := ha.listens
    rw [first, hrest] at hl
    rw [List.filter_comm, hl, hrest]
    simp
  · constructor
    · intro w hw
      rcases List.mem_append.mp hw with hw | hw
      · exact ha.asks w hw
      · rw [List.mem_singleton.mp hw]
        exact hc
    · simp [ha.listens, hc]

lemma Apart.send (ha : h.Apart) {call : Party} (hc : call.isSubscriber = true) (update : Update)
    (signal : Scope) : (h.send call update signal).1.Apart := by
  rcases h.send_cases call update signal with
    ⟨reason, he⟩ | ⟨w, rest, first, he⟩ | ⟨nobody, he⟩ <;> rw [he]
  · exact ha
  · have hw : w.call.isSubscriber = false := ha.asks w (by rw [first]; exact List.mem_cons_self)
    constructor
    · intro w' hw'
      exact ha.asks w' (by rw [first]; exact List.mem_cons_of_mem _ hw')
    · rw [← ha.listens, List.filter_filter]
      apply List.filter_congr
      rintro ⟨s, c⟩ -
      by_cases hsub : c.isSubscriber = true
      · have hne : c ≠ w.call := by
          rintro rfl
          rw [hsub] at hw
          cases hw
        simp [hsub, hne]
      · simp [hsub]
  · exact ⟨ha.asks, by simp [ha.listens, hc]⟩

lemma Apart.senders_abort (ha : h.Apart) (single : h.senders.length ≤ 1) (signal : Scope) :
    h.senders.filter (·.call ∉ h.listening signal) = h.senders.filter (·.signal ≠ signal) := by
  apply List.filter_congr
  intro w hw
  obtain ⟨hl, hc⟩ := ha.isSubscriber hw
  have hmem : w.call ∈ h.listening signal ↔ w.signal = signal := by
    constructor
    · intro hm
      have hf : w.call ∈ (h.listening signal).filter (·.isSubscriber) :=
        List.mem_filter.mpr ⟨hm, hc⟩
      rw [ha.listening] at hf
      obtain ⟨w', hw', -⟩ := List.mem_map.mp hf
      obtain ⟨hw', hs⟩ := List.mem_filter.mp hw'
      obtain ⟨x, hx⟩ : ∃ x, h.senders = [x] :=
        List.length_eq_one_iff.mp (Nat.le_antisymm single (List.length_pos_of_mem hw))
      rw [hx, List.mem_singleton] at hw hw'
      rw [hw, ← hw']
      exact of_decide_eq_true hs
    · rintro rfl
      exact List.mem_map.mpr ⟨_, List.mem_filter.mpr ⟨hl, by simp⟩, rfl⟩
  simp [hmem]

lemma Apart.abort (ha : h.Apart) (single : h.senders.length ≤ 1) (signal : Scope)
    (reason : Failure) : (h.abort signal reason).1.Apart := by
  cases hr : h.reason? signal with
  | some old =>
    rw [abort_of_aborted hr]
    exact ha
  | none =>
    rw [abort_of_current hr]
    constructor
    · intro w hw
      exact ha.asks w (List.mem_of_mem_filter hw)
    · change (h.listeners.filter _).filter _ = (h.senders.filter (·.call ∉ h.listening signal)).map _
      rw [ha.senders_abort single, List.filter_comm, ha.listens, List.filter_map]
      rfl

end Handoff

namespace Relay

variable {ω : Type}

/-- What is seen of the subscribe session of a relay in which some deliveries have been made. -/
def view (delivered : List Delivery) (r : Relay ω) : View where
  phase := r.subscriber
  talk := conversation r.history
  senders := r.handoff.senders
  offered := r.underway.filterMap Delivery.offered?
  taken := (delivered ++ r.underway).filterMap Delivery.taken?
  ends := (delivered ++ r.underway).filterMap Delivery.subscriberEnd?

/-- The number of a relay, who waits at its hand-off, and what is underway late. -/
structure Sound (n : Nat) (r : Relay ω) : Prop where
  number : r.number = n
  apart : r.handoff.Apart
  late : ∀ m a, .answer m (.later a) ∈ r.underway → a.isOfStream = true

/-- The subscribe session keeps to its rounds. -/
structure InRounds (n : Nat) (delivered : List Delivery) (r : Relay ω) : Prop
    extends r.Sound n where
  stage : Stage n (r.view delivered)

section

variable {n : Nat} {delivered : List Delivery} {r : Relay ω}

lemma view_note (r : Relay ω) (note : Note) : (r.note note).view delivered =
    { r.view delivered with talk := hear (r.view delivered).talk note } := by
  simp [view, Relay.note, conversation]

lemma view_post (r : Relay ω) (ds : List Delivery) : (r.post ds).view delivered =
    { r.view delivered with
      offered := (r.view delivered).offered ++ ds.filterMap Delivery.offered?
      taken := (r.view delivered).taken ++ ds.filterMap Delivery.taken?
      ends := (r.view delivered).ends ++ ds.filterMap Delivery.subscriberEnd? } := by
  simp [view, post, ← List.append_assoc]

/-- Other deliveries go unseen. -/
lemma view_post_same (r : Relay ω) {ds : List Delivery}
    (ho : ds.filterMap Delivery.offered? = []) (ht : ds.filterMap Delivery.taken? = [])
    (he : ds.filterMap Delivery.subscriberEnd? = []) :
    (r.post ds).view delivered = r.view delivered := by
  rw [view_post, ho, ht, he, List.append_nil, List.append_nil, List.append_nil]

lemma Sound.post (h : r.Sound n) {ds : List Delivery}
    (late : ∀ m a, .answer m (.later a) ∈ ds → a.isOfStream = true) : (r.post ds).Sound n where
  number := h.number
  apart := h.apart
  late m a hm := by
    rcases List.mem_append.mp hm with hm | hm
    · exact h.late m a hm
    · exact late m a hm

lemma Sound.note (h : r.Sound n) (note : Note) : (r.note note).Sound n :=
  ⟨h.number, h.apart, h.late⟩

/-- Streams answer for themselves. -/
lemma view_withWorld (r : Relay ω) {result : List Answer × ω}
    (hs : ∀ a ∈ result.1, a.isOfStream = true) :
    (r.withWorld result).view delivered = r.view delivered := by
  rw [withWorld, view_post_same]
  · rfl
  · rw [List.filterMap_map]
    exact List.filterMap_eq_nil_iff.mpr fun a ha => Delivery.offered?_of_isOfStream (hs a ha)
  · rw [List.filterMap_map]
    exact List.filterMap_eq_nil_iff.mpr fun a ha => Delivery.taken?_of_isOfStream (hs a ha)
  · rw [List.filterMap_map]
    exact List.filterMap_eq_nil_iff.mpr fun _ _ => rfl

lemma Sound.withWorld (h : r.Sound n) {result : List Answer × ω}
    (hs : ∀ a ∈ result.1, a.isOfStream = true) : (r.withWorld result).Sound n := by
  have hw : ({ r with world := result.2 } : Relay ω).Sound n := ⟨h.number, h.apart, h.late⟩
  exact hw.post fun _ _ hm => Delivery.isOfStream_of_late hs hm

lemma Sound.withHandoff (h : r.Sound n)
    {result : Handoff Party Scope Update × List (Party × CallOutcome Update)}
    (apart : result.1.Apart) : (r.withHandoff result).Sound n := by
  have hw : ({ r with handoff := result.1 } : Relay ω).Sound n := ⟨h.number, apart, h.late⟩
  exact hw.post fun m a hm => absurd hm (Delivery.late_outcomeDelivery _ m a)

lemma view_withHandoff (r : Relay ω)
    {result : Handoff Party Scope Update × List (Party × CallOutcome Update)}
    {offered : List (Except Failure Unit)} {taken : List Update}
    (ho : result.2.filterMap (fun x => (outcomeDelivery x).offered?) = offered)
    (ht : result.2.filterMap (fun x => (outcomeDelivery x).taken?) = taken) :
    (r.withHandoff result).view delivered =
      { r.view delivered with
        senders := result.1.senders
        offered := (r.view delivered).offered ++ offered
        taken := (r.view delivered).taken ++ taken } := by
  have he : (result.2.map outcomeDelivery).filterMap Delivery.subscriberEnd? = [] := by
    rw [List.filterMap_map]
    exact List.filterMap_eq_nil_iff.mpr fun x _ => Delivery.subscriberEnd?_outcomeDelivery x
  rw [withHandoff, view_post, he, List.append_nil, List.filterMap_map, List.filterMap_map, ← ho,
    ← ht]
  rfl

/-- The hand-off says nothing that concerns a subscribe session. -/
lemma view_withHandoff_same (r : Relay ω)
    {result : Handoff Party Scope Update × List (Party × CallOutcome Update)}
    (hs : result.1.senders = r.handoff.senders)
    (ho : result.2.filterMap (fun x => (outcomeDelivery x).offered?) = [])
    (ht : result.2.filterMap (fun x => (outcomeDelivery x).taken?) = []) :
    (r.withHandoff result).view delivered = r.view delivered := by
  rw [view_withHandoff r ho ht, hs, List.append_nil, List.append_nil]
  rfl

/-- What is underway longest is delivered now. -/
lemma view_underway (r : Relay ω) {d : Delivery} {ds : List Delivery} (hu : r.underway = d :: ds) :
    r.view delivered = { { r with underway := ds }.view (delivered ++ [d]) with
      offered := d.offered?.toList ++
        ({ r with underway := ds }.view (delivered ++ [d])).offered } := by
  have hf : ∀ {β : Type} (f : Delivery → Option β), (delivered ++ d :: ds).filterMap f =
      ((delivered ++ [d]) ++ ds).filterMap f := by simp
  have ho : (d :: ds).filterMap Delivery.offered? =
      d.offered?.toList ++ ds.filterMap Delivery.offered? := by
    cases hd : d.offered? <;> simp [hd]
  rw [view, hu, hf, hf, ho]
  rfl

lemma InRounds.single (h : r.InRounds n delivered) : r.handoff.senders.length ≤ 1 := by
  rcases h.stage.senders_cases with hs | ⟨update, hs⟩
  · exact (congrArg List.length hs).trans_le (Nat.zero_le 1)
  · exact (congrArg List.length hs).le

lemma InRounds.note (h : r.InRounds n delivered) {note : Note}
    (hn : ∀ talk, hear talk note = talk) : (r.note note).InRounds n delivered := by
  refine ⟨h.toSound.note note, ?_⟩
  rw [view_note, hn]
  exact h.stage

lemma InRounds.withWorld (h : r.InRounds n delivered) {result : List Answer × ω}
    (hs : ∀ a ∈ result.1, a.isOfStream = true) : (r.withWorld result).InRounds n delivered := by
  refine ⟨h.toSound.withWorld hs, ?_⟩
  rw [view_withWorld r hs]
  exact h.stage

/-- Somebody who is no subscribe session asks for an update. -/
lemma InRounds.receive (h : r.InRounds n delivered) {call : Party}
    (hc : call.isSubscriber = false) (signal : Scope) :
    (r.withHandoff (r.handoff.receive call signal)).InRounds n delivered := by
  refine ⟨h.toSound.withHandoff (h.apart.receive h.single hc signal), ?_⟩
  rcases r.handoff.receive_cases call signal with
    ⟨reason, he⟩ | ⟨w, rest, first, he⟩ | ⟨nobody, he⟩ <;> rw [he]
  · rw [view_withHandoff_same]
    · exact h.stage
    · rfl
    · simp [Delivery.offered?_cancelled, hc]
    · simp [Delivery.taken?_cancelled]
  · obtain ⟨hw, -, hstage⟩ := h.stage.take first
    have ho : [(w.call, .sent), (call, .received w.value)].filterMap
        (fun x => (outcomeDelivery x).offered?) = [.ok ()] := by
      simp [hw, Delivery.offered?_sent, Delivery.offered?_received hc]
    have ht : [(w.call, .sent), (call, .received w.value)].filterMap
        (fun x => (outcomeDelivery x).taken?) = [w.value] := by
      simp [Delivery.taken?_sent, Delivery.taken?_received hc]
    rw [view_withHandoff r ho ht]
    exact hstage
  · rw [view_withHandoff_same]
    · exact h.stage
    · rfl
    · rfl
    · rfl

lemma InRounds.signal (h : r.InRounds n delivered) :
    ∀ w ∈ r.handoff.senders, w.signal = .session := by
  intro w hw
  rcases h.stage.senders_cases with hs | ⟨update, hs⟩
  · have hm : w ∈ (r.view delivered).senders := hw
    rw [hs] at hm
    cases hm
  · have hm : w ∈ (r.view delivered).senders := hw
    rw [hs, List.mem_singleton] at hm
    rw [hm]

/-- A signal is aborted. Only that of the sessions cancels an offer. -/
lemma InRounds.abort (h : r.InRounds n delivered) (signal : Scope) (reason : Failure) :
    (r.withHandoff (r.handoff.abort signal reason)).InRounds n delivered := by
  refine ⟨h.toSound.withHandoff (h.apart.abort h.single signal reason), ?_⟩
  cases hr : r.handoff.reason? signal with
  | some old =>
    rw [Handoff.abort_of_aborted hr, view_withHandoff_same]
    · exact h.stage
    · rfl
    · rfl
    · rfl
  | none =>
    have ho : ((r.handoff.listening signal).map fun call => (call, .cancelled reason)).filterMap
        (fun x => (outcomeDelivery x).offered?) =
          (r.handoff.senders.filter (·.signal = signal)).map
            fun _ => .error (.cancelled reason) := by
      rw [List.filterMap_map, Function.comp_def]
      simp only [Delivery.offered?_cancelled]
      rw [← List.filterMap_filter, h.apart.listening, List.filterMap_map, ← List.filterMap_eq_map]
      rfl
    have ht : ((r.handoff.listening signal).map fun call => (call, .cancelled reason)).filterMap
        (fun x => (outcomeDelivery x).taken?) = [] := by
      rw [List.filterMap_map, List.filterMap_eq_nil_iff]
      exact fun call _ => Delivery.taken?_cancelled call reason
    rw [Handoff.abort_of_current hr, view_withHandoff r ho ht, List.append_nil]
    dsimp only
    obtain ⟨hcancelled, hkept⟩ := Scope.filter_session h.signal signal
    rw [h.apart.senders_abort h.single, hcancelled, hkept]
    cases signal with
    | session => exact h.stage.drop reason
    | guest number =>
      have hother : Scope.guest number ≠ .session := by simp
      rw [if_neg hother, if_neg hother, List.map_nil, List.append_nil]
      exact h.stage

section

variable {ε : Type} [Endpoints ω] {occur : ε → ω → Option (List Answer × ω)}

lemma InRounds.cancel (streams : StreamsAnswer occur) (h : r.InRounds n delivered)
    (reason : Failure) : (r.cancel reason).InRounds n delivered := by
  unfold Relay.cancel
  split
  · exact h
  · exact (h.withWorld (streams.cancel r.world)).abort .session reason

lemma InRounds.obeyPublisher (streams : StreamsAnswer occur) (h : r.InRounds n delivered)
    (command : PublishSession.Command) : (r.obeyPublisher command).InRounds n delivered := by
  have hn : (r.note (.publisherAsked command)).InRounds n delivered := h.note fun _ => rfl
  cases command with
  | take => exact hn.receive rfl .session
  | send update => exact hn.withWorld (streams.sendUpdate update r.world)
  | forwarded update => exact ⟨⟨hn.number, hn.apart, hn.late⟩, hn.stage⟩
  | close => exact hn.withWorld (streams.closePublish r.world)
  | noteOpened => exact hn.note fun _ => rfl

lemma InRounds.movePublisher (streams : StreamsAnswer occur) (h : r.InRounds n delivered)
    (next : PublishSession.Phase × List PublishSession.Command) :
    (r.movePublisher next).InRounds n delivered := by
  apply movePublisher_induction
  · exact ⟨⟨h.number, h.apart, h.late⟩, h.stage⟩
  · exact fun _ command h => h.obeyPublisher streams command
  · intro r failure h
    refine ⟨h.toSound.post (by simp), ?_⟩
    rw [view_post_same]
    · exact h.stage
    · rfl
    · rfl
    · rfl

lemma InRounds.startPublisher (streams : StreamsAnswer occur) (h : r.InRounds n delivered) :
    r.startPublisher.InRounds n delivered := by
  have hopened : ∀ (result : Except Failure Unit) (world : ω),
      ({ r with world }.noteOpening .publish result).InRounds n delivered := by
    intro result world
    have hw : ({ r with world } : Relay ω).InRounds n delivered :=
      ⟨⟨h.number, h.apart, h.late⟩, h.stage⟩
    cases result with
    | error failure => exact hw
    | ok _ => exact hw.note fun _ => rfl
  unfold Relay.startPublisher
  split
  · exact h.movePublisher streams _
  · exact (hopened _ _).movePublisher streams _

end

end

end Relay

end TelemetryBridge
