import TelemetryBridge.Proofs.Places

/-!
# Steps over scripted streams

What an answer, a cancellation, an event at the streams and the start of a session can do to a relay,
as tables of the relays that result.
-/

namespace TelemetryBridge

/-! ## What an answer does -/

/-- The update that a note says is sent to the collector. -/
def Note.offer? : Note → Option Update
  | publisherAsked (.send update) => some update
  | _ => none

/-- The notes that tell of the sending of the given updates. -/
def Note.Offers (updates : List Update) (ns : List Note) : Prop := ns.filterMap Note.offer? = updates

/-- Whether a reply lets the subscribe session ask for the next update. -/
def SubscribeSession.Asks (phase : Phase) (reply : Reply) : Prop :=
  (phase = .requesting ∧ reply = .requestSent (.ok ())) ∨
    ∃ update, phase = .offering update ∧ reply = .offered (.ok ())

/-- Whether a reply ends the subscribe session. -/
inductive SubscribeSession.Fails : Phase → Reply → Prop
  | request (failure) : Fails .requesting (.requestSent (.error failure))
  | receive (failure) : Fails .receiving (.received (.error failure))
  | close : Fails .receiving (.received (.ok none))
  | offer (update failure) : Fails (.offering update) (.offered (.error failure))

/-- Whether a reply ends the publish session. -/
inductive PublishSession.Fails : Phase → Reply → Prop
  | take (failure) : Fails .taking (.taken (.error failure))
  | send (update failure) : Fails (.sending update) (.sent (.error failure))

namespace Relay

/-- What an answer can do to a relay from whose deliveries it has been taken. -/
inductive Answered (r : Relay Scripted) : Answer → Relay Scripted → Prop
  | served (phase reply ns s item queue) (current : r.subscriber = some phase)
    (asks : SubscribeSession.Asks phase reply) (offers : Note.Offers [] ns)
    (stream : r.world.subscribe = some s) (front : s.queue = item :: queue) :
    Answered r (.subscriber reply) { r with
      subscriber := some .receiving
      world := { r.world with subscribe := some { s with queue } }
      underway := r.underway ++ [.answer r.number (.subscriber (.received item.result))]
      history := r.history ++ ns }
  | unserved (phase reply ns s failure) (current : r.subscriber = some phase)
    (asks : SubscribeSession.Asks phase reply) (offers : Note.Offers [] ns)
    (stream : r.world.subscribe = some s) (drained : s.queue = []) :
    Answered r (.subscriber reply) { r with
      subscriber := some .receiving
      underway := r.underway ++ [.answer r.number (.subscriber (.received (.error failure)))]
      history := r.history ++ ns }
  | waits (phase reply ns s) (current : r.subscriber = some phase)
    (asks : SubscribeSession.Asks phase reply) (offers : Note.Offers [] ns)
    (stream : r.world.subscribe = some s) (drained : s.queue = [])
    (may : s.cancelled = false ∨ r.world.script.ignoreSubscribe = true) :
    Answered r (.subscriber reply) { r with
      subscriber := some .receiving
      world := { r.world with subscribe := some { s with blocked := some .receive } }
      history := r.history ++ ns }
  | held (update ns) (current : r.subscriber = some .receiving) (offers : Note.Offers [] ns)
    (free : r.handoff = Channel.idle.handoff r.number) :
    Answered r (.subscriber (.received (.ok (some update)))) { r with
      subscriber := some (.offering update)
      handoff := (Channel.offering update).handoff r.number
      history := r.history ++ ns }
  | handed (update ns) (current : r.subscriber = some .receiving) (offers : Note.Offers [] ns)
    (asked : r.handoff = Channel.asking.handoff r.number) :
    Answered r (.subscriber (.received (.ok (some update)))) { r with
      subscriber := some (.offering update)
      handoff := Channel.idle.handoff r.number
      underway := r.underway ++ [.answer r.number (.publisher (.taken (.ok update))),
        .answer r.number (.subscriber (.offered (.ok ())))]
      history := r.history ++ ns }
  | refused (update ns reason) (current : r.subscriber = some .receiving)
    (offers : Note.Offers [] ns) (closed : r.handoff = (Channel.closed reason).handoff r.number) :
    Answered r (.subscriber (.received (.ok (some update)))) { r with
      subscriber := some (.offering update)
      underway := r.underway ++
        [.answer r.number (.subscriber (.offered (.error (.cancelled reason))))]
      history := r.history ++ ns }
  | subscriberEnds (phase reply ns failure) (current : r.subscriber = some phase)
    (fails : SubscribeSession.Fails phase reply) (offers : Note.Offers [] ns) :
    Answered r (.subscriber reply) { r with
      subscriber := some (.ended failure)
      world := { r.world with
        subscribe := r.world.subscribe.map fun s => { s with closed := true } }
      underway := r.underway ++ [.ended .subscribe failure]
      history := r.history ++ ns }
  | accepted (update ns) (current : r.publisher = some .taking) (offers : Note.Offers [update] ns) :
    Answered r (.publisher (.taken (.ok update))) { r with
      publisher := some (.sending update)
      world := { r.world with accepted := r.world.accepted ++ [update] }
      underway := r.underway ++ [.answer r.number (.publisher (.sent (.ok ())))]
      history := r.history ++ ns }
  | unaccepted (update ns failure) (current : r.publisher = some .taking)
    (offers : Note.Offers [update] ns) :
    Answered r (.publisher (.taken (.ok update))) { r with
      publisher := some (.sending update)
      underway := r.underway ++ [.answer r.number (.publisher (.sent (.error failure)))]
      history := r.history ++ ns }
  | sends (update ns p) (current : r.publisher = some .taking) (offers : Note.Offers [update] ns)
    (stream : r.world.publish = some p)
    (may : p.cancelled = false ∨ r.world.script.ignorePublish = true) :
    Answered r (.publisher (.taken (.ok update))) { r with
      publisher := some (.sending update)
      world := { r.world with publish := some { p with sending := some update } }
      history := r.history ++ ns }
  | asks (update ns) (current : r.publisher = some (.sending update)) (offers : Note.Offers [] ns)
    (free : r.handoff = Channel.idle.handoff r.number) :
    Answered r (.publisher (.sent (.ok ()))) { r with
      publisher := some .taking
      forwarded := r.forwarded + 1
      handoff := Channel.asking.handoff r.number
      history := r.history ++ ns }
  | takes (update next ns) (current : r.publisher = some (.sending update))
    (offers : Note.Offers [] ns) (offered : r.handoff = (Channel.offering next).handoff r.number) :
    Answered r (.publisher (.sent (.ok ()))) { r with
      publisher := some .taking
      forwarded := r.forwarded + 1
      handoff := Channel.idle.handoff r.number
      underway := r.underway ++ [.answer r.number (.subscriber (.offered (.ok ()))),
        .answer r.number (.publisher (.taken (.ok next)))]
      history := r.history ++ ns }
  | barred (update ns reason) (current : r.publisher = some (.sending update))
    (offers : Note.Offers [] ns) (closed : r.handoff = (Channel.closed reason).handoff r.number) :
    Answered r (.publisher (.sent (.ok ()))) { r with
      publisher := some .taking
      forwarded := r.forwarded + 1
      underway := r.underway ++
        [.answer r.number (.publisher (.taken (.error (.cancelled reason))))]
      history := r.history ++ ns }
  | publisherEnds (phase reply ns failure) (current : r.publisher = some phase)
    (fails : PublishSession.Fails phase reply) (offers : Note.Offers [] ns) :
    Answered r (.publisher reply) { r with
      publisher := some (.ended failure)
      world := { r.world with publish := r.world.publish.map fun p => { p with closed := true } }
      underway := r.underway ++ [.ended .publish failure]
      history := r.history ++ ns }

end Relay

namespace Relay

variable {r : Relay Scripted}

lemma answer_of_asks {phase : SubscribeSession.Phase} {reply : SubscribeSession.Reply}
    (hs : r.subscriber = some phase) (ha : SubscribeSession.Asks phase reply) :
    ∃ ns, Note.Offers [] ns ∧ r.answer (.subscriber reply) =
      { r with subscriber := some .receiving, history := r.history ++ ns }.withWorld
        (Scripted.receive r.world) := by
  rcases ha with ⟨rfl, rfl⟩ | ⟨update, rfl, rfl⟩
  · refine ⟨[.subscriberTold (.requestSent (.ok ())), .subscriberAsked .noteRequestSent,
      .log (.requestSent r.request.subscriptions.length), .subscriberAsked .receive], rfl, ?_⟩
    rw [answer_subscriber_of_live hs rfl]
    simp [SubscribeSession.react, moveSubscriber, obeySubscriber, carryOutSubscriber, Relay.note]
    rfl
  · refine ⟨[.subscriberTold (.offered (.ok ())), .subscriberAsked .receive], rfl, ?_⟩
    rw [answer_subscriber_of_live hs rfl]
    simp [SubscribeSession.react, moveSubscriber, obeySubscriber, carryOutSubscriber, Relay.note]
    rfl

lemma answer_received (update : Update) (hs : r.subscriber = some .receiving) :
    ∃ ns, Note.Offers [] ns ∧ r.answer (.subscriber (.received (.ok (some update)))) =
      { r with subscriber := some (.offering update), history := r.history ++ ns }.withHandoff
        (r.handoff.send (.subscriber r.number) update .session) := by
  refine ⟨[.subscriberTold (.received (.ok (some update))), .subscriberAsked (.offer update)], rfl, ?_⟩
  rw [answer_subscriber_of_live hs rfl]
  simp [SubscribeSession.react, moveSubscriber, obeySubscriber, carryOutSubscriber, Relay.note]

lemma answer_of_subscriber_fails {phase : SubscribeSession.Phase} {reply : SubscribeSession.Reply}
    (hs : r.subscriber = some phase) (hf : SubscribeSession.Fails phase reply) :
    Answered r (.subscriber reply) (r.answer (.subscriber reply)) := by
  obtain ⟨failure, hl, hr⟩ : ∃ failure, phase.isLive = true ∧
      SubscribeSession.react r.cancelled? phase reply = (.ended failure, [.close]) := by
    cases hf <;> exact ⟨_, rfl, rfl⟩
  have he : r.answer (.subscriber reply) = { r with
      subscriber := some (.ended failure)
      world := { r.world with
        subscribe := r.world.subscribe.map fun s => { s with closed := true } }
      underway := r.underway ++ [.ended .subscribe failure]
      history := r.history ++ [.subscriberTold reply, .subscriberAsked .close] } := by
    rw [answer_subscriber_of_live hs hl, hr]
    simp [moveSubscriber, obeySubscriber, carryOutSubscriber, Relay.note, withWorld, post,
      Endpoints.closeSubscribe, Scripted.closeSubscribe]
  rw [he]
  exact .subscriberEnds phase reply _ failure hs hf rfl

lemma answer_taken (update : Update) (hp : r.publisher = some .taking) :
    ∃ ns, Note.Offers [update] ns ∧ r.answer (.publisher (.taken (.ok update))) =
      { r with publisher := some (.sending update), history := r.history ++ ns }.withWorld
        (Scripted.sendUpdate update r.world) := by
  refine ⟨[.publisherTold (.taken (.ok update)), .publisherAsked (.send update)], rfl, ?_⟩
  rw [answer_publisher_of_live hp rfl]
  simp [PublishSession.react, movePublisher, obeyPublisher, carryOutPublisher, Relay.note]
  rfl

lemma answer_sent {update : Update} (hp : r.publisher = some (.sending update)) :
    ∃ ns, Note.Offers [] ns ∧ r.answer (.publisher (.sent (.ok ()))) =
      { r with publisher := some .taking, forwarded := r.forwarded + 1,
               history := r.history ++ ns }.withHandoff
        (r.handoff.receive (.publisher r.number) .session) := by
  refine ⟨[.publisherTold (.sent (.ok ())), .publisherAsked (.forwarded update),
    .publisherAsked .take], rfl, ?_⟩
  rw [answer_publisher_of_live hp rfl]
  simp [PublishSession.react, movePublisher, obeyPublisher, carryOutPublisher, Relay.note]

lemma answer_of_publisher_fails {phase : PublishSession.Phase} {reply : PublishSession.Reply}
    (hp : r.publisher = some phase) (hf : PublishSession.Fails phase reply) :
    Answered r (.publisher reply) (r.answer (.publisher reply)) := by
  obtain ⟨failure, hl, hr⟩ : ∃ failure, phase.isLive = true ∧
      PublishSession.react r.cancelled? phase reply = (.ended failure, [.close]) := by
    cases hf <;> exact ⟨_, rfl, rfl⟩
  have he : r.answer (.publisher reply) = { r with
      publisher := some (.ended failure)
      world := { r.world with publish := r.world.publish.map fun p => { p with closed := true } }
      underway := r.underway ++ [.ended .publish failure]
      history := r.history ++ [.publisherTold reply, .publisherAsked .close] } := by
    rw [answer_publisher_of_live hp hl, hr]
    simp [movePublisher, obeyPublisher, carryOutPublisher, Relay.note, withWorld, post,
      Endpoints.closePublish, Scripted.closePublish]
  rw [he]
  exact .publisherEnds phase reply _ failure hp hf rfl

/-- A stream with updates serves them; one without fails the call or blocks it. -/
lemma answered_of_asks {phase : SubscribeSession.Phase} {reply : SubscribeSession.Reply}
    {s : ScriptedSubscribe} (hs : r.subscriber = some phase)
    (ha : SubscribeSession.Asks phase reply) (hw : r.world.subscribe = some s) :
    Answered r (.subscriber reply) (r.answer (.subscriber reply)) := by
  obtain ⟨ns, hn, he⟩ := answer_of_asks hs ha
  rw [he]
  rcases hq : s.queue with _ | ⟨item, queue⟩
  · by_cases hc : (s.cancelled && !r.world.script.ignoreSubscribe) = true
    · have := Answered.unserved phase reply ns s Scripted.cancelledCall hs ha hn hw hq
      simpa [Scripted.receive, hw, hq, hc, withWorld, post, Scripted.received] using this
    · have hmay : s.cancelled = false ∨ r.world.script.ignoreSubscribe = true := by
        cases hi : r.world.script.ignoreSubscribe <;> simp_all
      have := Answered.waits phase reply ns s hs ha hn hw hq hmay
      simpa [Scripted.receive, hw, hq, hc, withWorld, post] using this
  · have := Answered.served phase reply ns s item queue hs ha hn hw hq
    simpa [Scripted.receive, hw, hq, withWorld, post, Scripted.received] using this

lemma answered_received {update : Update} {c : Channel} (hs : r.subscriber = some .receiving)
    (hc : r.handoff = c.handoff r.number) (ho : r.handoff.senders = []) :
    Answered r (.subscriber (.received (.ok (some update))))
      (r.answer (.subscriber (.received (.ok (some update))))) := by
  obtain ⟨ns, hn, he⟩ := answer_received update hs
  rw [he]
  cases c with
  | idle =>
    rw [hc, Channel.send_idle]
    have := Answered.held update ns hs hn hc
    simpa [withHandoff, post] using this
  | offering other => simp [hc, Channel.handoff] at ho
  | asking =>
    rw [hc, Channel.send_asking]
    exact .handed update ns hs hn hc
  | closed reason =>
    have hsend : r.handoff.send (.subscriber r.number) update .session =
        (r.handoff, [(.subscriber r.number, .cancelled reason)]) := by
      rw [hc]
      exact Channel.send_closed r.number update reason
    rw [hsend]
    exact .refused update ns reason hs hn hc

lemma answered_taken {update : Update} {p : ScriptedPublish} (hp : r.publisher = some .taking)
    (hw : r.world.publish = some p) :
    Answered r (.publisher (.taken (.ok update))) (r.answer (.publisher (.taken (.ok update)))) := by
  obtain ⟨ns, hn, he⟩ := answer_taken update hp
  rw [he]
  by_cases ha : r.world.script.autoSend = true
  · have := Answered.accepted update ns hp hn
    simpa [Scripted.sendUpdate, hw, ha, withWorld, post, Scripted.sent] using this
  · by_cases hc : (p.cancelled && !r.world.script.ignorePublish) = true
    · have := Answered.unaccepted update ns Scripted.cancelledCall hp hn
      simpa [Scripted.sendUpdate, hw, ha, hc, withWorld, post, Scripted.sent] using this
    · have hmay : p.cancelled = false ∨ r.world.script.ignorePublish = true := by
        cases hi : r.world.script.ignorePublish <;> simp_all
      have := Answered.sends update ns p hp hn hw hmay
      simpa [Scripted.sendUpdate, hw, ha, hc, withWorld, post] using this

lemma answered_sent {update : Update} {c : Channel} (hp : r.publisher = some (.sending update))
    (hc : r.handoff = c.handoff r.number) (ha : (!r.handoff.receivers.isEmpty) = false) :
    Answered r (.publisher (.sent (.ok ()))) (r.answer (.publisher (.sent (.ok ())))) := by
  obtain ⟨ns, hn, he⟩ := answer_sent hp
  rw [he]
  cases c with
  | idle =>
    rw [hc, Channel.receive_idle]
    have := Answered.asks update ns hp hn hc
    simpa [withHandoff, post] using this
  | offering next =>
    rw [hc, Channel.receive_offering]
    exact .takes update next ns hp hn hc
  | asking => simp [hc, Channel.handoff] at ha
  | closed reason =>
    have hreceive : r.handoff.receive (.publisher r.number) .session =
        (r.handoff, [(.publisher r.number, .cancelled reason)]) := by
      rw [hc]
      exact Channel.receive_closed r.number reason
    rw [hreceive]
    exact .barred update ns reason hp hn hc

/-- The table of answers is complete. -/
theorem Placed.answered (h : r.Placed) {n : Nat} {a : Answer} {rest : List Delivery}
    (hu : r.underway = .answer n a :: rest) :
    Answered { r with underway := rest } a ({ r with underway := rest }.answer a) := by
  cases a with
  | later a =>
    have := h.plain _ (hu ▸ List.mem_cons_self)
    cases this
  | subscriber reply =>
    have hr : r.subscriberReplies = reply :: rest.filterMap Delivery.subscriberReply? :=
      subscriberReplies_of hu
    have hsub := h.subscriber
    rw [hr] at hsub
    obtain ⟨-, ho, ⟨s, hw, -, -⟩, hphase⟩ := hsub.of_reply
    obtain ⟨c, hc⟩ := h.channel
    have hsend : r.handoff.senders = [] := List.map_eq_nil_iff.mp ho
    rcases hphase with ⟨hp, result, rfl⟩ | ⟨hp, result, rfl⟩ | ⟨update, result, hp, rfl⟩
    · rcases result with failure | _
      · exact answer_of_subscriber_fails hp (.request failure)
      · exact answered_of_asks hp (Or.inl ⟨rfl, rfl⟩) hw
    · rcases result with failure | _ | update
      · exact answer_of_subscriber_fails hp (.receive failure)
      · exact answer_of_subscriber_fails hp .close
      · exact answered_received hp hc hsend
    · rcases result with failure | _
      · exact answer_of_subscriber_fails hp (.offer update failure)
      · exact answered_of_asks hp (Or.inr ⟨update, rfl, rfl⟩) hw
  | publisher reply =>
    have hr : r.publisherReplies = reply :: rest.filterMap Delivery.publisherReply? :=
      publisherReplies_of hu
    have hpub := h.publisher
    rw [hr] at hpub
    obtain ⟨-, ha, ⟨p, hw, -, -⟩, hphase⟩ := hpub.of_reply
    obtain ⟨c, hc⟩ := h.channel
    rcases hphase with ⟨hp, result, rfl⟩ | ⟨update, result, hp, rfl⟩
    · rcases result with failure | update
      · exact answer_of_publisher_fails hp (.take failure)
      · exact answered_taken hp hw
    · rcases result with failure | _
      · exact answer_of_publisher_fails hp (.send update failure)
      · exact answered_sent hp hc ha

/-- No answer cancels the scope of the sessions. -/
lemma isCancelled_answered {r' : Relay Scripted} {a : Answer} (h : r.Answered a r') :
    r'.isCancelled = r.isCancelled := by
  cases h with
  | held update ns current offers free => rw [isCancelled_channel free]; rfl
  | handed update ns current offers asked => rw [isCancelled_channel asked]; rfl
  | asks update ns current offers free => rw [isCancelled_channel free]; rfl
  | takes update next ns current offers offered => rw [isCancelled_channel offered]; rfl
  | _ => exact isCancelled_congr rfl

end Relay

/-! ## Cancellation -/

namespace Scripted

/-- The replies to the subscribe session when its stream is cancelled. -/
def subscriberCut (w : Scripted) : List SubscribeSession.Reply :=
  if w.script.ignoreSubscribe then []
  else match w.subscribe.bind (·.blocked) with
    | some .send => [.requestSent (.error cancelledCall)]
    | some .receive => [.received (.error cancelledCall)]
    | none => []

/-- The replies to the publish session when its stream is cancelled. -/
def publisherCut (w : Scripted) : List PublishSession.Reply :=
  if w.script.ignorePublish then []
  else match w.publish.bind (·.sending) with
    | some _ => [.sent (.error cancelledCall)]
    | none => []

/-- The streams after they are cancelled. -/
def cut (w : Scripted) : Scripted :=
  { w with
    subscribe := w.subscribe.map fun s => { s with
      cancelled := true, blocked := if w.script.ignoreSubscribe then s.blocked else none }
    publish := w.publish.map fun p => { p with
      cancelled := true, sending := if w.script.ignorePublish then p.sending else none } }

lemma cancelSubscribe_eq (w : Scripted) : w.cancelSubscribe =
    (w.subscriberCut.map .subscriber, { w with subscribe := w.cut.subscribe }) := by
  rcases hs : w.subscribe with _ | s
  · cases hi : w.script.ignoreSubscribe <;>
      simp [cancelSubscribe, subscriberCut, cut, hs, hi] <;> simp [← hs]
  · cases hi : w.script.ignoreSubscribe
    · rcases hb : s.blocked with _ | _ | _ <;>
        simp [cancelSubscribe, subscriberCut, cut, hs, hi, hb, requestSent, received]
    · simp [cancelSubscribe, subscriberCut, cut, hs, hi]

lemma cancelPublish_eq (w : Scripted) : w.cancelPublish =
    (w.publisherCut.map .publisher, { w with publish := w.cut.publish }) := by
  rcases hp : w.publish with _ | p
  · cases hi : w.script.ignorePublish <;>
      simp [cancelPublish, publisherCut, cut, hp, hi] <;> simp [← hp]
  · cases hi : w.script.ignorePublish
    · rcases hb : p.sending with _ | update <;>
        simp [cancelPublish, publisherCut, cut, hp, hi, hb, sent]
    · simp [cancelPublish, publisherCut, cut, hp, hi]

lemma cancel_eq (w : Scripted) : w.cancel =
    (w.subscriberCut.map .subscriber ++ w.publisherCut.map .publisher, w.cut) := by
  unfold cancel
  rw [cancelSubscribe_eq]
  dsimp only
  rw [cancelPublish_eq]
  rfl

end Scripted

namespace Relay

variable {r : Relay Scripted}

/-- What is sent on its way when the scope is cancelled. -/
def cut (r : Relay Scripted) (c : Channel) (reason : Failure) : List Delivery :=
  r.world.subscriberCut.map (fun x => .answer r.number (.subscriber x)) ++
    r.world.publisherCut.map (fun x => .answer r.number (.publisher x)) ++
    (c.waiting r.number).map fun call => outcomeDelivery (call, .cancelled reason)

lemma cancel_eq {c : Channel} (hc : r.handoff = c.handoff r.number) (hn : r.isCancelled = false)
    (reason : Failure) : r.cancel reason = { r with
      world := r.world.cut
      handoff := (Channel.closed reason).handoff r.number
      underway := r.underway ++ r.cut c reason } := by
  have hnone : r.cancelled? = none := by simpa [isCancelled] using hn
  have hopen : (c.handoff r.number).reason? .session = none := hc ▸ hnone
  unfold cancel
  rw [hnone]
  dsimp only
  change ((r.withWorld (Scripted.cancel r.world)).withHandoff (r.handoff.abort .session reason)) = _
  rw [hc, Channel.abort_handoff r.number reason hopen, Scripted.cancel_eq]
  simp [withWorld, withHandoff, post, cut, Function.comp_def]

/-- A scope is cancelled only once. -/
lemma cancel_of_isCancelled (hc : r.isCancelled = true) (reason : Failure) : r.cancel reason = r := by
  obtain ⟨old, ho⟩ := Option.isSome_iff_exists.mp hc
  unfold cancel
  rw [ho]

lemma cancel_frame (r : Relay Scripted) (reason : Failure) :
    (r.cancel reason).history = r.history ∧ (r.cancel reason).publisher = r.publisher ∧
      (r.cancel reason).world.accepted = r.world.accepted ∧
      (r.cancel reason).world.script = r.world.script := by
  unfold cancel
  split
  · exact ⟨rfl, rfl, rfl, rfl⟩
  · refine ⟨rfl, rfl, ?_, ?_⟩
    · change (Scripted.cancel r.world).2.accepted = _
      rw [Scripted.cancel_eq]
      rfl
    · change (Scripted.cancel r.world).2.script = _
      rw [Scripted.cancel_eq]
      rfl

lemma Placed.isCancelled_cancel (h : r.Placed) (reason : Failure) :
    (r.cancel reason).isCancelled = true := by
  cases hn : r.isCancelled with
  | true => rwa [cancel_of_isCancelled hn]
  | false =>
    obtain ⟨c, hc⟩ := h.channel
    rw [cancel_eq hc hn]
    rfl

end Relay

/-! ## Events -/

/-- The update among the items of a stream that an item is. -/
def StreamItem.update? : StreamItem → Option Update
  | update u => some u
  | _ => none

/-- The updates among the items of a stream. -/
def StreamItem.updates (items : List StreamItem) : List Update := items.filterMap update?

namespace Scripted

/-- The updates that an event puts on the stream. -/
def Event.put : Event → List Update
  | arrive items => StreamItem.updates items
  | _ => []

/-- What an event that puts the given updates on the stream can do to scripted streams. -/
inductive Happens (w : Scripted) : List Update → List Answer × Scripted → Prop
  | request (result s) (stream : w.subscribe = some s) (blocked : s.blocked = some .send) :
    Happens w [] ([.subscriber (.requestSent result)],
      { w with subscribe := some { s with blocked := none } })
  | accepted (update p) (stream : w.publish = some p) (blocked : p.sending = some update) :
    Happens w [] ([.publisher (.sent (.ok ()))],
      { w with publish := some { p with sending := none }, accepted := w.accepted ++ [update] })
  | unaccepted (update p failure) (stream : w.publish = some p) (blocked : p.sending = some update) :
    Happens w [] ([.publisher (.sent (.error failure))],
      { w with publish := some { p with sending := none } })
  | met (item rest s) (stream : w.subscribe = some s) (unclosed : s.closed = false)
    (blocked : s.blocked = some .receive) :
    Happens w (StreamItem.updates (item :: rest)) ([.subscriber (.received item.result)],
      { w with subscribe := some { s with blocked := none, queue := s.queue ++ rest } })
  | queued (items s) (stream : w.subscribe = some s) (unclosed : s.closed = false)
    (unmet : s.blocked = some .receive → items = []) :
    Happens w (StreamItem.updates items) ([],
      { w with subscribe := some { s with queue := s.queue ++ items } })

lemma happens_settleRequest {w : Scripted} {result : Except Failure Unit}
    {outcome : List Answer × Scripted} (h : w.settleRequest result = some outcome) :
    w.Happens [] outcome := by
  unfold settleRequest at h
  rcases hw : w.subscribe with _ | s
  · simp [hw] at h
  · by_cases hb : s.blocked = some .send
    · obtain rfl : _ = outcome := by simpa [hw, hb] using h
      exact .request result s hw hb
    · simp [hw, hb] at h

lemma happens_settleUpdate {w : Scripted} {result : Except Failure Unit}
    {outcome : List Answer × Scripted} (h : w.settleUpdate result = some outcome) :
    w.Happens [] outcome := by
  unfold settleUpdate at h
  rcases hw : w.publish with _ | p
  · simp [hw] at h
  · rcases hb : p.sending with _ | update
    · simp [hw, hb] at h
    · rcases result with failure | _
      · obtain rfl : _ = outcome := by simpa [hw, hb] using h
        exact .unaccepted update p failure hw hb
      · obtain rfl : _ = outcome := by simpa [hw, hb] using h
        exact .accepted update p hw hb

lemma happens_arrive {w : Scripted} {items : List StreamItem} {outcome : List Answer × Scripted}
    (h : w.arrive items = some outcome) : w.Happens (StreamItem.updates items) outcome := by
  unfold arrive at h
  split at h
  · next s hw =>
    split at h
    · cases h
    · next hc =>
      have hopen : s.closed = false := by simpa using hc
      split at h
      · next item rest hb =>
        obtain rfl := Option.some.inj h
        exact .met item rest s hw hopen hb
      · next items _ _ hne =>
        obtain rfl := Option.some.inj h
        refine .queued items s hw hopen fun hb => ?_
        cases items with
        | nil => rfl
        | cons item rest => exact absurd hb (hne item rest rfl)
  · cases h

/-- The table of events is complete. -/
theorem happens_of_occur {w : Scripted} {event : Event} {outcome : List Answer × Scripted}
    (h : occur event w = some outcome) : w.Happens event.put outcome := by
  cases event with
  | requestOk =>
    have hr : w.settleRequest (.ok ()) = some outcome := h
    exact happens_settleRequest hr
  | requestError message =>
    have hr : w.settleRequest (.error (.error message)) = some outcome := h
    exact happens_settleRequest hr
  | sendOk =>
    have hu : w.settleUpdate (.ok ()) = some outcome := h
    exact happens_settleUpdate hu
  | sendError message =>
    have hu : w.settleUpdate (.error (.error message)) = some outcome := h
    exact happens_settleUpdate hu
  | arrive items => exact happens_arrive h

end Scripted

/-! ## Starts -/

namespace Relay

/-- What the start of a subscribe session can do to a relay. -/
inductive SubscriberStarts (r : Relay Scripted) : Relay Scripted → Prop
  | failed (failure) : SubscriberStarts r { r with
      subscriber := some (.ended failure)
      world := { r.world with
        subscribeCalls := r.world.subscribeCalls + 1, metadata := r.metadata }
      underway := r.underway ++ [.ended .subscribe failure] }
  | requested (ns) (offers : Note.Offers [] ns) : SubscriberStarts r { r with
      subscriber := some .requesting
      world := { r.world with
        subscribeCalls := r.world.subscribeCalls + 1, metadata := r.metadata
        subscribe := some { requests := 1 } }
      underway := r.underway ++ [.answer r.number (.subscriber (.requestSent (.ok ())))]
      history := r.history ++ ns }
  | requests (ns) (offers : Note.Offers [] ns) : SubscriberStarts r { r with
      subscriber := some .requesting
      world := { r.world with
        subscribeCalls := r.world.subscribeCalls + 1, metadata := r.metadata
        subscribe := some { requests := 1, blocked := some .send } }
      history := r.history ++ ns }

/-- What the start of a publish session can do to a relay. -/
inductive PublisherStarts (r : Relay Scripted) : Relay Scripted → Prop
  | failed (failure) : PublisherStarts r { r with
      publisher := some (.ended failure)
      world := { r.world with publishCalls := r.world.publishCalls + 1 }
      underway := r.underway ++ [.ended .publish failure] }
  | asks (ns) (offers : Note.Offers [] ns) : PublisherStarts r { r with
      publisher := some .taking
      world := { r.world with publishCalls := r.world.publishCalls + 1, publish := some {} }
      handoff := Channel.asking.handoff r.number
      history := r.history ++ ns }

variable {r : Relay Scripted}

lemma SubscriberStarts.frame {r' : Relay Scripted} (h : SubscriberStarts r r') :
    r'.number = r.number ∧ r'.handoff = r.handoff ∧ r'.publisher = r.publisher := by
  cases h <;> exact ⟨rfl, rfl, rfl⟩

lemma subscriberStarts (hc : r.handoff = Channel.idle.handoff r.number) :
    SubscriberStarts r r.startSubscriber := by
  have hn : r.cancelled? = none := by
    unfold cancelled?
    rw [hc]
    rfl
  unfold startSubscriber
  rw [hn]
  dsimp only [Endpoints.openSubscribe]
  unfold Scripted.openSubscribe
  rcases Scripted.openResult r.world.script.subscribeErrors r.world.subscribeCalls with failure | _
  · exact .failed _
  · cases ha : r.world.script.autoRequest with
    | true =>
      have := SubscriberStarts.requested (r := r) [.opened .subscribe, .subscriberAsked .sendRequest] rfl
      simpa [noteOpening, moveSubscriber, SubscribeSession.opened, obeySubscriber,
        carryOutSubscriber, Endpoints.sendRequest, Scripted.sendRequest, Relay.note, withWorld, post,
        ha, Scripted.requestSent] using this
    | false =>
      have := SubscriberStarts.requests (r := r) [.opened .subscribe, .subscriberAsked .sendRequest] rfl
      simpa [noteOpening, moveSubscriber, SubscribeSession.opened, obeySubscriber,
        carryOutSubscriber, Endpoints.sendRequest, Scripted.sendRequest, Relay.note, withWorld, post,
        ha] using this

lemma publisherStarts (hc : r.handoff = Channel.idle.handoff r.number) :
    PublisherStarts r r.startPublisher := by
  have hn : r.cancelled? = none := by
    unfold cancelled?
    rw [hc]
    rfl
  unfold startPublisher
  rw [hn]
  dsimp only [Endpoints.openPublish]
  unfold Scripted.openPublish
  rcases Scripted.openResult r.world.script.publishErrors r.world.publishCalls with failure | _
  · exact .failed _
  · have := PublisherStarts.asks (r := r) [.opened .publish, .publisherAsked .noteOpened,
      .log .publishOpened, .publisherAsked .take] rfl
    simpa [noteOpening, movePublisher, PublishSession.opened, obeyPublisher, carryOutPublisher,
      Relay.note, withHandoff, post, hc, Channel.receive_idle] using this

/-- An attempt starts both sessions, one after the other, with an idle hand-off between them. -/
lemma startPair_starts (r : Relay Scripted) (status : BridgeStatus) :
    ∃ r₁, SubscriberStarts (r.fresh.note (.opening .subscribe 2 status)) r₁ ∧
      r₁.handoff = Channel.idle.handoff r₁.number ∧ r₁.publisher = none ∧
      PublisherStarts (r₁.note (.opening .publish 2 status)) (r.startPair status) := by
  have hs : SubscriberStarts (r.fresh.note (.opening .subscribe 2 status))
      (r.fresh.note (.opening .subscribe 2 status)).startSubscriber := subscriberStarts rfl
  obtain ⟨hnumber, hhandoff, hnone⟩ := hs.frame
  have hidle : (r.fresh.note (.opening .subscribe 2 status)).startSubscriber.handoff =
      Channel.idle.handoff (r.fresh.note (.opening .subscribe 2 status)).startSubscriber.number := by
    rw [hhandoff, hnumber]
    rfl
  exact ⟨_, hs, hidle, hnone, publisherStarts hidle⟩

/-! ## Steps of an attempt -/

/-- What one event can do to a relay in an attempt, and which updates it puts on the stream. -/
inductive Step (r : Relay Scripted) : List Update → Relay Scripted → Prop
  | noted (ns) (offers : Note.Offers [] ns) : Step r [] { r with history := r.history ++ ns }
  | cancelled (reason) : Step r [] (r.cancel reason)
  | happened (put outcome) (happens : r.world.Happens put outcome) : Step r put (r.withWorld outcome)
  | answered (n a rest r') (first : r.underway = .answer n a :: rest)
    (done : Answered { r with underway := rest } a r') : Step r [] r'
  | heard (side failure rest ns) (first : r.underway = .ended side failure :: rest)
    (offers : Note.Offers [] ns) : Step r [] { { r with underway := rest }.cancel failure with
      history := r.history ++ ns }

lemma note_note (r : Relay Scripted) (m n : Note) :
    (r.note m).note n = { r with history := r.history ++ [m, n] } := by
  simp [Relay.note]

lemma cancel_note (r : Relay Scripted) (n : Note) (reason : Failure) :
    (r.note n).cancel reason = { r.cancel reason with history := r.history ++ [n] } := by
  have hn : (r.note n).cancelled? = r.cancelled? := rfl
  unfold cancel
  rw [hn]
  cases r.cancelled? <;> rfl

end Relay

end TelemetryBridge
