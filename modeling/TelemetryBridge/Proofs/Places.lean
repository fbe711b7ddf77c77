import TelemetryBridge.Proofs.Lifecycle
import TelemetryBridge.Stream.Scripted

/-!
# Where sessions wait

Over scripted streams a live session always waits for exactly one thing: an answer that is underway,
a blocked call on its stream, or the other session at the hand-off. `SubscriberAwaits` and
`PublisherAwaits` list the places, and `Relay.Placed` says that both sessions are in one of them.
-/

namespace TelemetryBridge

/-- The states in which the sessions of a relay can leave their hand-off. -/
inductive Channel where
  | idle
  | offering (update : Update)
  | asking
  | closed (reason : Failure)

/-- The hand-off of the relay with the given number in a state. -/
def Channel.handoff (n : Nat) : Channel → Handoff Party Scope Update
  | idle => {}
  | offering update =>
    { senders := [⟨.subscriber n, .session, update⟩], listeners := [(.session, .subscriber n)] }
  | asking => { receivers := [⟨.publisher n, .session⟩], listeners := [(.session, .publisher n)] }
  | closed reason => { aborted := [(.session, reason)] }

namespace Channel

variable (n : Nat) (update : Update) (reason : Failure)

lemma send_idle : (idle.handoff n).send (.subscriber n) update .session =
    ((offering update).handoff n, []) := rfl

lemma send_asking : (asking.handoff n).send (.subscriber n) update .session =
    (idle.handoff n, [(.publisher n, .received update), (.subscriber n, .sent)]) := by
  simp [handoff, Handoff.send, Handoff.reason?]

lemma send_closed : ((closed reason).handoff n).send (.subscriber n) update .session =
    ((closed reason).handoff n, [(.subscriber n, .cancelled reason)]) := rfl

lemma receive_idle : (idle.handoff n).receive (.publisher n) .session = (asking.handoff n, []) := rfl

lemma receive_offering : ((offering update).handoff n).receive (.publisher n) .session =
    (idle.handoff n, [(.subscriber n, .sent), (.publisher n, .received update)]) := by
  simp [handoff, Handoff.receive, Handoff.reason?]

lemma receive_closed : ((closed reason).handoff n).receive (.publisher n) .session =
    ((closed reason).handoff n, [(.publisher n, .cancelled reason)]) := rfl

/-- Who waits at the hand-off. -/
def waiting : Channel → List Party
  | offering _ => [.subscriber n]
  | asking => [.publisher n]
  | _ => []

lemma abort_handoff {c : Channel} (h : (c.handoff n).reason? .session = none) :
    (c.handoff n).abort .session reason =
      ((closed reason).handoff n, (c.waiting n).map fun call => (call, .cancelled reason)) := by
  cases c with
  | idle => rfl
  | closed old => cases h
  | offering update =>
    simp [handoff, waiting, Handoff.abort, Handoff.reason?, Handoff.listening]
  | asking => simp [handoff, waiting, Handoff.abort, Handoff.reason?, Handoff.listening]

end Channel

/-! ## Places -/

/-- A stream to the target whose session has not ended. -/
structure ScriptedSubscribe.IsOpen (s : ScriptedSubscribe) (cancelled : Bool) : Prop where
  unclosed : s.closed = false
  same : s.cancelled = cancelled

/-- No stream to the target is in use. -/
def Unsubscribed (stream : Option ScriptedSubscribe) : Prop :=
  ∀ s, stream = some s → s.closed = true ∧ s.blocked = none

/-- Where a subscribe session waits: its phase, the replies underway to it, the stream opened last and
the updates that wait at the hand-off. -/
inductive SubscriberAwaits (cancelled ignores : Bool) : Option SubscribeSession.Phase →
    List SubscribeSession.Reply → Option ScriptedSubscribe → List Update → Prop
  | absent {stream} (unused : Unsubscribed stream) :
    SubscriberAwaits cancelled ignores none [] stream []
  | ended {failure stream} (unused : Unsubscribed stream) :
    SubscriberAwaits cancelled ignores (some (.ended failure)) [] stream []
  | requesting {s} (blocked : s.blocked = some .send) (isOpen : s.IsOpen cancelled)
    (may : cancelled = false ∨ ignores = true) :
    SubscriberAwaits cancelled ignores (some .requesting) [] (some s) []
  | requested {s result} (free : s.blocked = none) (isOpen : s.IsOpen cancelled) :
    SubscriberAwaits cancelled ignores (some .requesting) [.requestSent result] (some s) []
  | receiving {s} (blocked : s.blocked = some .receive) (isOpen : s.IsOpen cancelled)
    (may : cancelled = false ∨ ignores = true) (drained : s.queue = []) :
    SubscriberAwaits cancelled ignores (some .receiving) [] (some s) []
  | received {s result} (free : s.blocked = none) (isOpen : s.IsOpen cancelled) :
    SubscriberAwaits cancelled ignores (some .receiving) [.received result] (some s) []
  | offering {s update} (free : s.blocked = none) (isOpen : s.IsOpen cancelled)
    (going : cancelled = false) :
    SubscriberAwaits cancelled ignores (some (.offering update)) [] (some s) [update]
  | offered {s update result} (free : s.blocked = none) (isOpen : s.IsOpen cancelled) :
    SubscriberAwaits cancelled ignores (some (.offering update)) [.offered result] (some s) []

/-- Where a publish session waits: its phase, the replies underway to it, the stream opened last and
whether it waits at the hand-off. -/
inductive PublisherAwaits (cancelled ignores : Bool) : Option PublishSession.Phase →
    List PublishSession.Reply → Option ScriptedPublish → Bool → Prop
  | absent {stream} (unused : ∀ p, stream = some p → p.sending = none) :
    PublisherAwaits cancelled ignores none [] stream false
  | ended {failure stream} (unused : ∀ p, stream = some p → p.sending = none) :
    PublisherAwaits cancelled ignores (some (.ended failure)) [] stream false
  | taking {p} (free : p.sending = none) (same : p.cancelled = cancelled) (going : cancelled = false) :
    PublisherAwaits cancelled ignores (some .taking) [] (some p) true
  | taken {p result} (free : p.sending = none) (same : p.cancelled = cancelled) :
    PublisherAwaits cancelled ignores (some .taking) [.taken result] (some p) false
  | sending {p update} (blocked : p.sending = some update) (same : p.cancelled = cancelled)
    (may : cancelled = false ∨ ignores = true) :
    PublisherAwaits cancelled ignores (some (.sending update)) [] (some p) false
  | sent {p update result} (free : p.sending = none) (same : p.cancelled = cancelled) :
    PublisherAwaits cancelled ignores (some (.sending update)) [.sent result] (some p) false

namespace Delivery

/-- The reply to the subscribe session that is delivered. -/
def subscriberReply? : Delivery → Option SubscribeSession.Reply
  | answer _ (.subscriber reply) => some reply
  | _ => none

/-- The reply to the publish session that is delivered. -/
def publisherReply? : Delivery → Option PublishSession.Reply
  | answer _ (.publisher reply) => some reply
  | _ => none

section

variable (n : Nat) (reply : SubscribeSession.Reply) (reply' : PublishSession.Reply) (side : Side)
  (failure : Failure)

@[simp] lemma subscriberReply?_subscriber :
    subscriberReply? (answer n (.subscriber reply)) = some reply := rfl

@[simp] lemma subscriberReply?_publisher :
    subscriberReply? (answer n (.publisher reply')) = none := rfl

@[simp] lemma subscriberReply?_ended : subscriberReply? (ended side failure) = none := rfl

@[simp] lemma publisherReply?_subscriber :
    publisherReply? (answer n (.subscriber reply)) = none := rfl

@[simp] lemma publisherReply?_publisher :
    publisherReply? (answer n (.publisher reply')) = some reply' := rfl

@[simp] lemma publisherReply?_ended : publisherReply? (ended side failure) = none := rfl

end

/-- Whether a delivery is a reply to a session or the news of its end. -/
def isPlain : Delivery → Bool
  | answer _ (.later _) | guest _ _ => false
  | _ => true

end Delivery

namespace Relay

/-- Whether the scope of the sessions is cancelled. -/
def isCancelled {ω : Type} (r : Relay ω) : Bool := r.cancelled?.isSome

/-- The replies underway to the subscribe session. -/
def subscriberReplies {ω : Type} (r : Relay ω) : List SubscribeSession.Reply :=
  r.underway.filterMap Delivery.subscriberReply?

/-- The replies underway to the publish session. -/
def publisherReplies {ω : Type} (r : Relay ω) : List PublishSession.Reply :=
  r.underway.filterMap Delivery.publisherReply?

/-- Both sessions wait in one of their places. -/
structure Placed (r : Relay Scripted) : Prop where
  plain : ∀ d ∈ r.underway, d.isPlain = true
  channel : ∃ c : Channel, r.handoff = c.handoff r.number
  subscriber : SubscriberAwaits r.isCancelled r.world.script.ignoreSubscribe r.subscriber
    r.subscriberReplies r.world.subscribe (r.handoff.senders.map (·.value))
  publisher : PublisherAwaits r.isCancelled r.world.script.ignorePublish r.publisher
    r.publisherReplies r.world.publish (!r.handoff.receivers.isEmpty)

end Relay

/-! ## What a place tells -/

/-- A reply underway to a subscribe session is the only one, and the one that its phase waits for. -/
lemma SubscriberAwaits.of_reply {cancelled ignores : Bool} {phase : Option SubscribeSession.Phase}
    {reply : SubscribeSession.Reply} {replies : List SubscribeSession.Reply}
    {stream : Option ScriptedSubscribe} {offers : List Update}
    (h : SubscriberAwaits cancelled ignores phase (reply :: replies) stream offers) :
    replies = [] ∧ offers = [] ∧
      (∃ s, stream = some s ∧ s.blocked = none ∧ s.IsOpen cancelled) ∧
      ((phase = some .requesting ∧ ∃ result, reply = .requestSent result) ∨
        (phase = some .receiving ∧ ∃ result, reply = .received result) ∨
        ∃ update result, phase = some (.offering update) ∧ reply = .offered result) := by
  cases h with
  | requested free isOpen => exact ⟨rfl, rfl, ⟨_, rfl, free, isOpen⟩, Or.inl ⟨rfl, _, rfl⟩⟩
  | received free isOpen => exact ⟨rfl, rfl, ⟨_, rfl, free, isOpen⟩, Or.inr (Or.inl ⟨rfl, _, rfl⟩)⟩
  | offered free isOpen =>
    exact ⟨rfl, rfl, ⟨_, rfl, free, isOpen⟩, Or.inr (Or.inr ⟨_, _, rfl, rfl⟩)⟩

lemma PublisherAwaits.of_reply {cancelled ignores asking : Bool} {phase : Option PublishSession.Phase}
    {reply : PublishSession.Reply} {replies : List PublishSession.Reply}
    {stream : Option ScriptedPublish}
    (h : PublisherAwaits cancelled ignores phase (reply :: replies) stream asking) :
    replies = [] ∧ asking = false ∧
      (∃ p, stream = some p ∧ p.sending = none ∧ p.cancelled = cancelled) ∧
      ((phase = some .taking ∧ ∃ result, reply = .taken result) ∨
        ∃ update result, phase = some (.sending update) ∧ reply = .sent result) := by
  cases h with
  | taken free same => exact ⟨rfl, rfl, ⟨_, rfl, free, same⟩, Or.inl ⟨rfl, _, rfl⟩⟩
  | sent free same => exact ⟨rfl, rfl, ⟨_, rfl, free, same⟩, Or.inr ⟨_, _, rfl, rfl⟩⟩

lemma SubscriberAwaits.of_offer {cancelled ignores : Bool} {phase : Option SubscribeSession.Phase}
    {replies : List SubscribeSession.Reply} {stream : Option ScriptedSubscribe} {update : Update}
    (h : SubscriberAwaits cancelled ignores phase replies stream [update]) :
    phase = some (.offering update) ∧ replies = [] ∧
      ∃ s, stream = some s ∧ s.blocked = none ∧ s.IsOpen cancelled := by
  cases h with
  | offering free isOpen => exact ⟨rfl, rfl, _, rfl, free, isOpen⟩

lemma PublisherAwaits.of_asking {cancelled ignores : Bool} {phase : Option PublishSession.Phase}
    {replies : List PublishSession.Reply} {stream : Option ScriptedPublish}
    (h : PublisherAwaits cancelled ignores phase replies stream true) :
    phase = some .taking ∧ replies = [] ∧
      ∃ p, stream = some p ∧ p.sending = none ∧ p.cancelled = cancelled := by
  cases h with
  | taking free same => exact ⟨rfl, rfl, _, rfl, free, same⟩

lemma SubscriberAwaits.of_blocked_send {cancelled ignores : Bool}
    {phase : Option SubscribeSession.Phase} {replies : List SubscribeSession.Reply}
    {s : ScriptedSubscribe} {offers : List Update}
    (h : SubscriberAwaits cancelled ignores phase replies (some s) offers)
    (hb : s.blocked = some .send) :
    phase = some .requesting ∧ replies = [] ∧ offers = [] ∧ s.IsOpen cancelled := by
  cases h with
  | absent unused | ended unused =>
    rw [(unused s rfl).2] at hb
    cases hb
  | requesting blocked isOpen => exact ⟨rfl, rfl, rfl, isOpen⟩
  | receiving blocked =>
    rw [blocked] at hb
    cases hb
  | requested free | received free | offering free | offered free =>
    rw [free] at hb
    cases hb

lemma SubscriberAwaits.of_blocked_receive {cancelled ignores : Bool}
    {phase : Option SubscribeSession.Phase} {replies : List SubscribeSession.Reply}
    {s : ScriptedSubscribe} {offers : List Update}
    (h : SubscriberAwaits cancelled ignores phase replies (some s) offers)
    (hb : s.blocked = some .receive) :
    phase = some .receiving ∧ replies = [] ∧ offers = [] ∧ s.IsOpen cancelled ∧ s.queue = [] := by
  cases h with
  | absent unused | ended unused =>
    rw [(unused s rfl).2] at hb
    cases hb
  | receiving blocked isOpen may drained => exact ⟨rfl, rfl, rfl, isOpen, drained⟩
  | requesting blocked =>
    rw [blocked] at hb
    cases hb
  | requested free | received free | offering free | offered free =>
    rw [free] at hb
    cases hb

/-- Items that arrive at a stream and do not meet a blocked call wait in its queue. -/
lemma SubscriberAwaits.enqueue {cancelled ignores : Bool} {phase : Option SubscribeSession.Phase}
    {replies : List SubscribeSession.Reply} {s : ScriptedSubscribe} {offers : List Update}
    {queue : List StreamItem} (h : SubscriberAwaits cancelled ignores phase replies (some s) offers)
    (hq : s.blocked = some .receive → queue = []) :
    SubscriberAwaits cancelled ignores phase replies (some { s with queue }) offers := by
  cases h with
  | absent unused => exact .absent fun t ht => Option.some.inj ht ▸ unused s rfl
  | ended unused => exact .ended fun t ht => Option.some.inj ht ▸ unused s rfl
  | requesting blocked isOpen may => exact .requesting blocked ⟨isOpen.unclosed, isOpen.same⟩ may
  | receiving blocked isOpen may =>
    exact .receiving blocked ⟨isOpen.unclosed, isOpen.same⟩ may (hq blocked)
  | requested free isOpen => exact .requested free ⟨isOpen.unclosed, isOpen.same⟩
  | received free isOpen => exact .received free ⟨isOpen.unclosed, isOpen.same⟩
  | offering free isOpen going => exact .offering free ⟨isOpen.unclosed, isOpen.same⟩ going
  | offered free isOpen => exact .offered free ⟨isOpen.unclosed, isOpen.same⟩

lemma PublisherAwaits.of_sending {cancelled ignores asking : Bool}
    {phase : Option PublishSession.Phase} {replies : List PublishSession.Reply} {p : ScriptedPublish}
    {update : Update} (h : PublisherAwaits cancelled ignores phase replies (some p) asking)
    (hb : p.sending = some update) :
    phase = some (.sending update) ∧ replies = [] ∧ asking = false ∧ p.cancelled = cancelled := by
  cases h with
  | absent unused | ended unused =>
    rw [unused p rfl] at hb
    cases hb
  | sending blocked same =>
    obtain rfl := Option.some.inj (blocked.symm.trans hb)
    exact ⟨rfl, rfl, rfl, same⟩
  | taking free | taken free | sent free =>
    rw [free] at hb
    cases hb

lemma SubscriberAwaits.of_not_live {cancelled ignores : Bool} {phase : Option SubscribeSession.Phase}
    {replies : List SubscribeSession.Reply} {stream : Option ScriptedSubscribe} {offers : List Update}
    (h : SubscriberAwaits cancelled ignores phase replies stream offers)
    (hl : phase.any (·.isLive) = false) : replies = [] ∧ Unsubscribed stream := by
  cases h with
  | absent unused | ended unused => exact ⟨rfl, unused⟩
  | _ => cases hl

lemma PublisherAwaits.of_not_live {cancelled ignores asking : Bool}
    {phase : Option PublishSession.Phase} {replies : List PublishSession.Reply}
    {stream : Option ScriptedPublish}
    (h : PublisherAwaits cancelled ignores phase replies stream asking)
    (hl : phase.any (·.isLive) = false) :
    replies = [] ∧ ∀ p, stream = some p → p.sending = none := by
  cases h with
  | absent unused | ended unused => exact ⟨rfl, unused⟩
  | _ => cases hl

/-- A live session to which nothing is underway waits on its stream or at the hand-off. -/
lemma SubscriberAwaits.of_quiet {cancelled ignores : Bool} {phase : Option SubscribeSession.Phase}
    {stream : Option ScriptedSubscribe} {offers : List Update}
    (h : SubscriberAwaits cancelled ignores phase [] stream offers)
    (hl : phase.any (·.isLive) = true) :
    stream.bind (·.blocked) = some .send ∨ stream.elim [] (·.queue) = [] ∨ offers ≠ [] := by
  cases h with
  | absent | ended => cases hl
  | requesting blocked => exact Or.inl blocked
  | receiving blocked isOpen may drained => exact Or.inr (Or.inl drained)
  | offering => exact Or.inr (Or.inr (List.cons_ne_nil _ _))

lemma PublisherAwaits.of_quiet {cancelled ignores asking : Bool} {phase : Option PublishSession.Phase}
    {stream : Option ScriptedPublish} (h : PublisherAwaits cancelled ignores phase [] stream asking)
    (hl : phase.any (·.isLive) = true) :
    (phase = some .taking ∧ stream.bind (·.sending) = none ∧ asking = true) ∨
      ∃ update, phase = some (.sending update) ∧ stream.bind (·.sending) = some update := by
  cases h with
  | absent | ended => cases hl
  | taking free => exact Or.inl ⟨rfl, free, rfl⟩
  | sending blocked => exact Or.inr ⟨_, rfl, blocked⟩

namespace Relay

variable {r : Relay Scripted}

lemma subscriberReplies_of {ds : List Delivery} (h : r.underway = ds) :
    r.subscriberReplies = ds.filterMap Delivery.subscriberReply? := by
  rw [subscriberReplies, h]

lemma publisherReplies_of {ds : List Delivery} (h : r.underway = ds) :
    r.publisherReplies = ds.filterMap Delivery.publisherReply? := by
  rw [publisherReplies, h]

lemma isCancelled_congr {r' : Relay Scripted} (h : r'.handoff = r.handoff) :
    r'.isCancelled = r.isCancelled := by
  unfold isCancelled cancelled?
  rw [h]

lemma isCancelled_channel {c : Channel} (h : r.handoff = c.handoff r.number) :
    r.isCancelled = ((c.handoff r.number).reason? .session).isSome := by
  unfold isCancelled cancelled?
  rw [h]

/-- A step of the subscribe session that leaves the hand-off alone. -/
lemma Placed.of_subscriber {r' : Relay Scripted} (h : r.Placed) (hn : r'.number = r.number)
    (hh : r'.handoff = r.handoff) (hi : r'.world.script = r.world.script)
    (hp : r'.publisher = r.publisher) (hw : r'.world.publish = r.world.publish)
    (hr : r'.publisherReplies = r.publisherReplies) (plain : ∀ d ∈ r'.underway, d.isPlain = true)
    (hs : SubscriberAwaits r.isCancelled r.world.script.ignoreSubscribe r'.subscriber
      r'.subscriberReplies r'.world.subscribe (r.handoff.senders.map (·.value))) : r'.Placed := by
  refine ⟨plain, by rw [hh, hn]; exact h.channel, ?_, ?_⟩
  · rw [isCancelled_congr hh, hi, hh]
    exact hs
  · rw [isCancelled_congr hh, hi, hp, hr, hw, hh]
    exact h.publisher

lemma Placed.of_publisher {r' : Relay Scripted} (h : r.Placed) (hn : r'.number = r.number)
    (hh : r'.handoff = r.handoff) (hi : r'.world.script = r.world.script)
    (hs : r'.subscriber = r.subscriber) (hw : r'.world.subscribe = r.world.subscribe)
    (hr : r'.subscriberReplies = r.subscriberReplies) (plain : ∀ d ∈ r'.underway, d.isPlain = true)
    (hp : PublisherAwaits r.isCancelled r.world.script.ignorePublish r'.publisher
      r'.publisherReplies r'.world.publish (!r.handoff.receivers.isEmpty)) : r'.Placed := by
  refine ⟨plain, by rw [hh, hn]; exact h.channel, ?_, ?_⟩
  · rw [isCancelled_congr hh, hi, hs, hr, hw, hh]
    exact h.subscriber
  · rw [isCancelled_congr hh, hi, hh]
    exact hp

lemma plain_append {ds es : List Delivery} (h : ∀ d ∈ ds, d.isPlain = true)
    (h' : ∀ d ∈ es, d.isPlain = true) : ∀ d ∈ ds ++ es, d.isPlain = true := by
  intro d hd
  rcases List.mem_append.mp hd with hd | hd
  · exact h d hd
  · exact h' d hd

end Relay

end TelemetryBridge
