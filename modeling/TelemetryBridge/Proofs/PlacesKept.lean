import TelemetryBridge.Proofs.ScriptedSteps

/-!
# Sessions stay in their places

Every step of a bridge over scripted streams leaves both sessions in one of their places.
-/

namespace TelemetryBridge

namespace Relay

variable {r : Relay Scripted}

lemma Placed.answered_subscriber {r' : Relay Scripted} {n : Nat} {reply : SubscribeSession.Reply}
    {rest : List Delivery} (h : r.Placed) (hu : r.underway = .answer n (.subscriber reply) :: rest)
    (ha : Answered { r with underway := rest } (.subscriber reply) r') : r'.Placed := by
  have hplain : ∀ d ∈ rest, d.isPlain = true := fun d hd =>
    h.plain d (hu ▸ List.mem_cons_of_mem _ hd)
  have hpr : r.publisherReplies = rest.filterMap Delivery.publisherReply? :=
    (publisherReplies_of hu).trans rfl
  have hsr : r.subscriberReplies = reply :: rest.filterMap Delivery.subscriberReply? :=
    subscriberReplies_of hu
  have hsub := h.subscriber
  rw [hsr] at hsub
  obtain ⟨hnone, ho, ⟨s, hw, free, isOpen⟩, -⟩ := hsub.of_reply
  cases ha with
  | served phase _ ns s' item queue current asks offers stream front =>
    obtain rfl : s = s' := Option.some.inj (hw.symm.trans stream)
    refine h.of_subscriber rfl rfl rfl rfl rfl ?_ (plain_append hplain (by simp [Delivery.isPlain])) ?_
    · rw [hpr]
      simp [publisherReplies]
    · rw [ho]
      simpa [subscriberReplies, hnone] using
        SubscriberAwaits.received (s := { s with queue }) free ⟨isOpen.unclosed, isOpen.same⟩
  | unserved phase _ ns s' failure current asks offers stream drained =>
    refine h.of_subscriber rfl rfl rfl rfl rfl ?_ (plain_append hplain (by simp [Delivery.isPlain])) ?_
    · rw [hpr]
      simp [publisherReplies]
    · rw [ho]
      simpa [subscriberReplies, hnone, hw] using
        SubscriberAwaits.received free isOpen
  | waits phase _ ns s' current asks offers stream drained may =>
    obtain rfl : s = s' := Option.some.inj (hw.symm.trans stream)
    refine h.of_subscriber rfl rfl rfl rfl rfl hpr.symm hplain ?_
    rw [ho]
    have hmay : r.isCancelled = false ∨ r.world.script.ignoreSubscribe = true := by
      rw [← isOpen.same]
      exact may
    simpa [subscriberReplies, hnone] using
      SubscriberAwaits.receiving (s := { s with blocked := some .receive }) rfl
        ⟨isOpen.unclosed, isOpen.same⟩ hmay drained
  | held update ns current offers idle =>
    replace idle : r.handoff = Channel.idle.handoff r.number := idle
    have hc : r.isCancelled = false := by
      rw [isCancelled_channel idle]
      rfl
    have hpub := h.publisher
    rw [hpr, hc, idle] at hpub
    rw [hc] at isOpen
    refine ⟨hplain, ⟨.offering update, rfl⟩, ?_, hpub⟩
    change SubscriberAwaits false _ _ (List.filterMap _ rest) r.world.subscribe [update]
    rw [hnone, hw]
    exact .offering free isOpen rfl
  | handed update ns current offers asked =>
    replace asked : r.handoff = Channel.asking.handoff r.number := asked
    have hc : r.isCancelled = false := by
      rw [isCancelled_channel asked]
      rfl
    have hpub := h.publisher
    rw [hpr, hc, asked] at hpub
    rw [hc] at isOpen
    obtain ⟨hp, hr, p, hwp, hfree, hsame⟩ := hpub.of_asking
    refine ⟨plain_append hplain (by simp [Delivery.isPlain]), ⟨.idle, rfl⟩, ?_, ?_⟩
    · change SubscriberAwaits false _ _ (List.filterMap _ (rest ++ [_, _])) r.world.subscribe []
      rw [List.filterMap_append, hnone, hw]
      exact .offered free isOpen
    · change PublisherAwaits false _ r.publisher (List.filterMap _ (rest ++ [_, _])) r.world.publish
        false
      rw [List.filterMap_append, hr, hp, hwp]
      exact .taken hfree hsame
  | refused update ns reason current offers closed =>
    refine h.of_subscriber rfl rfl rfl rfl rfl ?_ (plain_append hplain (by simp [Delivery.isPlain])) ?_
    · rw [hpr]
      simp [publisherReplies]
    · rw [ho]
      simpa [subscriberReplies, hnone, hw] using
        SubscriberAwaits.offered free isOpen
  | subscriberEnds phase _ ns failure current fails offers =>
    refine h.of_subscriber rfl rfl rfl rfl rfl ?_ (plain_append hplain (by simp [Delivery.isPlain])) ?_
    · rw [hpr]
      simp [publisherReplies]
    · rw [ho]
      have hun : Unsubscribed (r.world.subscribe.map fun s => { s with closed := true }) := by
        intro s' hs'
        rw [hw] at hs'
        obtain rfl := Option.some.inj hs'
        exact ⟨rfl, free⟩
      have hr : List.filterMap Delivery.subscriberReply? (rest ++ [.ended .subscribe failure]) = [] := by
        rw [List.filterMap_append, hnone]
        rfl
      change SubscriberAwaits _ _ _ (List.filterMap _ (rest ++ [_])) _ _
      rw [hr]
      exact .ended hun

lemma Placed.answered_publisher {r' : Relay Scripted} {n : Nat} {reply : PublishSession.Reply}
    {rest : List Delivery} (h : r.Placed) (hu : r.underway = .answer n (.publisher reply) :: rest)
    (ha : Answered { r with underway := rest } (.publisher reply) r') : r'.Placed := by
  have hplain : ∀ d ∈ rest, d.isPlain = true := fun d hd =>
    h.plain d (hu ▸ List.mem_cons_of_mem _ hd)
  have hsr : r.subscriberReplies = rest.filterMap Delivery.subscriberReply? :=
    (subscriberReplies_of hu).trans rfl
  have hpr : r.publisherReplies = reply :: rest.filterMap Delivery.publisherReply? :=
    publisherReplies_of hu
  have hpub := h.publisher
  rw [hpr] at hpub
  obtain ⟨hnone, hasking, ⟨p, hw, free, same⟩, -⟩ := hpub.of_reply
  cases ha with
  | accepted update ns current offers =>
    refine h.of_publisher rfl rfl rfl rfl rfl ?_ (plain_append hplain (by simp [Delivery.isPlain])) ?_
    · rw [hsr]
      simp [subscriberReplies]
    · rw [hasking]
      simpa [publisherReplies, hnone, hw] using PublisherAwaits.sent free same
  | unaccepted update ns failure current offers =>
    refine h.of_publisher rfl rfl rfl rfl rfl ?_ (plain_append hplain (by simp [Delivery.isPlain])) ?_
    · rw [hsr]
      simp [subscriberReplies]
    · rw [hasking]
      simpa [publisherReplies, hnone, hw] using PublisherAwaits.sent free same
  | sends update ns p' current offers stream may =>
    obtain rfl : p = p' := Option.some.inj (hw.symm.trans stream)
    refine h.of_publisher rfl rfl rfl rfl rfl hsr.symm hplain ?_
    rw [hasking]
    have hmay : r.isCancelled = false ∨ r.world.script.ignorePublish = true := by
      rw [← same]
      exact may
    simpa [publisherReplies, hnone] using
      PublisherAwaits.sending (p := { p with sending := some update }) rfl same hmay
  | asks update ns current offers idle =>
    replace idle : r.handoff = Channel.idle.handoff r.number := idle
    have hc : r.isCancelled = false := by
      rw [isCancelled_channel idle]
      rfl
    have hsub := h.subscriber
    rw [hsr, hc, idle] at hsub
    rw [hc] at same
    refine ⟨hplain, ⟨.asking, rfl⟩, hsub, ?_⟩
    change PublisherAwaits false _ _ (List.filterMap _ rest) r.world.publish true
    rw [hnone, hw]
    exact .taking free same rfl
  | takes update next ns current offers offered =>
    replace offered : r.handoff = (Channel.offering next).handoff r.number := offered
    have hc : r.isCancelled = false := by
      rw [isCancelled_channel offered]
      rfl
    have hsub := h.subscriber
    rw [hsr, hc, offered] at hsub
    rw [hc] at same
    obtain ⟨hs, hr, s, hws, hfree, isOpen⟩ := hsub.of_offer
    refine ⟨plain_append hplain (by simp [Delivery.isPlain]), ⟨.idle, rfl⟩, ?_, ?_⟩
    · change SubscriberAwaits false _ r.subscriber (List.filterMap _ (rest ++ [_, _]))
        r.world.subscribe []
      rw [List.filterMap_append, hr, hs, hws]
      exact .offered hfree isOpen
    · change PublisherAwaits false _ _ (List.filterMap _ (rest ++ [_, _])) r.world.publish false
      rw [List.filterMap_append, hnone, hw]
      exact .taken free same
  | barred update ns reason current offers closed =>
    refine h.of_publisher rfl rfl rfl rfl rfl ?_ (plain_append hplain (by simp [Delivery.isPlain])) ?_
    · rw [hsr]
      simp [subscriberReplies]
    · rw [hasking]
      simpa [publisherReplies, hnone, hw] using PublisherAwaits.taken free same
  | publisherEnds phase _ ns failure current fails offers =>
    refine h.of_publisher rfl rfl rfl rfl rfl ?_ (plain_append hplain (by simp [Delivery.isPlain])) ?_
    · rw [hsr]
      simp [subscriberReplies]
    · have hun : ∀ p, (r.world.publish.map fun p => { p with closed := true }) = some p →
          p.sending = none := by
        intro p' hp'
        rw [hw] at hp'
        obtain rfl := Option.some.inj hp'
        exact free
      rw [hasking]
      change PublisherAwaits _ _ _ (List.filterMap _ (rest ++ [_])) _ _
      rw [List.filterMap_append, hnone]
      exact .ended hun

end Relay

/-! ## Cancellation -/

lemma unsubscribed_cut {w : Scripted} (h : Unsubscribed w.subscribe) : Unsubscribed w.cut.subscribe := by
  intro s hs
  obtain ⟨t, ht, rfl⟩ := Option.map_eq_some_iff.mp hs
  obtain ⟨hclosed, hblocked⟩ := h t ht
  exact ⟨hclosed, by simp [hblocked]⟩

lemma subscriberCut_of_free {w : Scripted} {s : ScriptedSubscribe} (hw : w.subscribe = some s)
    (free : s.blocked = none) : w.subscriberCut = [] := by
  simp [Scripted.subscriberCut, hw, free]

lemma subscriberCut_of_unsubscribed {w : Scripted} (h : Unsubscribed w.subscribe) :
    w.subscriberCut = [] := by
  rcases hs : w.subscribe with _ | s
  · simp [Scripted.subscriberCut, hs]
  · exact subscriberCut_of_free hs (h s hs).2

/-- A call that is blocked when the scope is cancelled fails, or goes on waiting if its stream ignores
the scope; an offer is cancelled. -/
lemma SubscriberAwaits.cut {w : Scripted} {phase : Option SubscribeSession.Phase}
    {replies : List SubscribeSession.Reply} {offers : List Update} (reason : Failure)
    (h : SubscriberAwaits false w.script.ignoreSubscribe phase replies w.subscribe offers) :
    SubscriberAwaits true w.script.ignoreSubscribe phase
      (replies ++ w.subscriberCut ++ offers.map fun _ => .offered (.error (.cancelled reason)))
      w.cut.subscribe [] := by
  have hcut : w.cut.subscribe = w.subscribe.map fun s => { s with
      cancelled := true, blocked := if w.script.ignoreSubscribe then s.blocked else none } := rfl
  generalize hw : w.subscribe = stream at h
  cases h with
  | absent unused =>
    rw [subscriberCut_of_unsubscribed (hw ▸ unused)]
    exact .absent (unsubscribed_cut (hw ▸ unused))
  | ended unused =>
    rw [subscriberCut_of_unsubscribed (hw ▸ unused)]
    exact .ended (unsubscribed_cut (hw ▸ unused))
  | requesting blocked isOpen may =>
    rw [hcut, hw]
    cases hi : w.script.ignoreSubscribe with
    | false =>
      have hr : w.subscriberCut = [.requestSent (.error Scripted.cancelledCall)] := by
        simp [Scripted.subscriberCut, hi, hw, blocked]
      rw [hr]
      exact .requested rfl ⟨isOpen.unclosed, rfl⟩
    | true =>
      have hr : w.subscriberCut = [] := by simp [Scripted.subscriberCut, hi]
      rw [hr]
      exact .requesting blocked ⟨isOpen.unclosed, rfl⟩ (Or.inr rfl)
  | receiving blocked isOpen may drained =>
    rw [hcut, hw]
    cases hi : w.script.ignoreSubscribe with
    | false =>
      have hr : w.subscriberCut = [.received (.error Scripted.cancelledCall)] := by
        simp [Scripted.subscriberCut, hi, hw, blocked]
      rw [hr]
      exact .received rfl ⟨isOpen.unclosed, rfl⟩
    | true =>
      have hr : w.subscriberCut = [] := by simp [Scripted.subscriberCut, hi]
      rw [hr]
      exact .receiving blocked ⟨isOpen.unclosed, rfl⟩ (Or.inr rfl) drained
  | requested free isOpen =>
    rw [subscriberCut_of_free hw free, hcut, hw]
    exact .requested (by simp [free]) ⟨isOpen.unclosed, rfl⟩
  | received free isOpen =>
    rw [subscriberCut_of_free hw free, hcut, hw]
    exact .received (by simp [free]) ⟨isOpen.unclosed, rfl⟩
  | offering free isOpen going =>
    rw [subscriberCut_of_free hw free, hcut, hw]
    exact .offered (by simp [free]) ⟨isOpen.unclosed, rfl⟩
  | offered free isOpen =>
    rw [subscriberCut_of_free hw free, hcut, hw]
    exact .offered (by simp [free]) ⟨isOpen.unclosed, rfl⟩

lemma publisherCut_of_free {w : Scripted} {p : ScriptedPublish} (hw : w.publish = some p)
    (free : p.sending = none) : w.publisherCut = [] := by
  simp [Scripted.publisherCut, hw, free]

lemma publisherCut_of_unused {w : Scripted} (h : ∀ p, w.publish = some p → p.sending = none) :
    w.publisherCut = [] := by
  rcases hp : w.publish with _ | p
  · simp [Scripted.publisherCut, hp]
  · exact publisherCut_of_free hp (h p hp)

lemma unused_cut {w : Scripted} (h : ∀ p, w.publish = some p → p.sending = none) :
    ∀ p, w.cut.publish = some p → p.sending = none := by
  intro p hp
  obtain ⟨q, hq, rfl⟩ := Option.map_eq_some_iff.mp hp
  simp [h q hq]

lemma PublisherAwaits.cut {w : Scripted} {phase : Option PublishSession.Phase}
    {replies : List PublishSession.Reply} {asking : Bool} (reason : Failure)
    (h : PublisherAwaits false w.script.ignorePublish phase replies w.publish asking) :
    PublisherAwaits true w.script.ignorePublish phase
      (replies ++ w.publisherCut ++ if asking then [.taken (.error (.cancelled reason))] else [])
      w.cut.publish false := by
  have hcut : w.cut.publish = w.publish.map fun p => { p with
      cancelled := true, sending := if w.script.ignorePublish then p.sending else none } := rfl
  generalize hw : w.publish = stream at h
  cases h with
  | absent unused =>
    rw [publisherCut_of_unused (hw ▸ unused)]
    exact .absent (unused_cut (hw ▸ unused))
  | ended unused =>
    rw [publisherCut_of_unused (hw ▸ unused)]
    exact .ended (unused_cut (hw ▸ unused))
  | taking free same going =>
    rw [publisherCut_of_free hw free, hcut, hw]
    exact .taken (by simp [free]) rfl
  | taken free same =>
    rw [publisherCut_of_free hw free, hcut, hw]
    exact .taken (by simp [free]) rfl
  | sending blocked same may =>
    rw [hcut, hw]
    cases hi : w.script.ignorePublish with
    | false =>
      have hr : w.publisherCut = [.sent (.error Scripted.cancelledCall)] := by
        simp [Scripted.publisherCut, hi, hw, blocked]
      rw [hr]
      exact .sent rfl rfl
    | true =>
      have hr : w.publisherCut = [] := by simp [Scripted.publisherCut, hi]
      rw [hr]
      exact .sending blocked rfl (Or.inr rfl)
  | sent free same =>
    rw [publisherCut_of_free hw free, hcut, hw]
    exact .sent (by simp [free]) rfl

namespace Relay

variable {r : Relay Scripted}

lemma subscriberReplies_cut {c : Channel} (hc : r.handoff = c.handoff r.number) (reason : Failure) :
    (r.cut c reason).filterMap Delivery.subscriberReply? = r.world.subscriberCut ++
      (r.handoff.senders.map (·.value)).map fun _ => .offered (.error (.cancelled reason)) := by
  have hs : ∀ l : List SubscribeSession.Reply, (l.map fun x => Delivery.answer r.number
      (.subscriber x)).filterMap Delivery.subscriberReply? = l := by
    intro l
    rw [List.filterMap_map]
    exact List.filterMap_some
  have hp : ∀ l : List PublishSession.Reply, (l.map fun x => Delivery.answer r.number
      (.publisher x)).filterMap Delivery.subscriberReply? = [] := by
    intro l
    rw [List.filterMap_map, List.filterMap_eq_nil_iff]
    exact fun _ _ => rfl
  rw [cut, List.filterMap_append, List.filterMap_append, hs, hp, List.append_nil, hc]
  cases c <;> rfl

lemma publisherReplies_cut {c : Channel} (hc : r.handoff = c.handoff r.number) (reason : Failure) :
    (r.cut c reason).filterMap Delivery.publisherReply? = r.world.publisherCut ++
      if !r.handoff.receivers.isEmpty then [.taken (.error (.cancelled reason))] else [] := by
  have hs : ∀ l : List SubscribeSession.Reply, (l.map fun x => Delivery.answer r.number
      (.subscriber x)).filterMap Delivery.publisherReply? = [] := by
    intro l
    rw [List.filterMap_map, List.filterMap_eq_nil_iff]
    exact fun _ _ => rfl
  have hp : ∀ l : List PublishSession.Reply, (l.map fun x => Delivery.answer r.number
      (.publisher x)).filterMap Delivery.publisherReply? = l := by
    intro l
    rw [List.filterMap_map]
    exact List.filterMap_some
  rw [cut, List.filterMap_append, List.filterMap_append, hs, hp, List.nil_append, hc]
  cases c <;> rfl

lemma plain_cut (r : Relay Scripted) (c : Channel) (reason : Failure) :
    ∀ d ∈ r.cut c reason, d.isPlain = true := by
  refine plain_append (plain_append ?_ ?_) ?_
  · intro d hd
    obtain ⟨x, -, rfl⟩ := List.mem_map.mp hd
    rfl
  · intro d hd
    obtain ⟨x, -, rfl⟩ := List.mem_map.mp hd
    rfl
  · intro d hd
    obtain ⟨call, hcall, rfl⟩ := List.mem_map.mp hd
    cases c with
    | offering update =>
      rw [List.mem_singleton.mp hcall]
      rfl
    | asking =>
      rw [List.mem_singleton.mp hcall]
      rfl
    | idle | closed old => cases hcall

lemma Placed.cancel (h : r.Placed) (reason : Failure) : (r.cancel reason).Placed := by
  cases hn : r.isCancelled with
  | true => rwa [cancel_of_isCancelled hn]
  | false =>
    obtain ⟨c, hc⟩ := h.channel
    have hs := h.subscriber
    have hp := h.publisher
    rw [hn] at hs hp
    rw [cancel_eq hc hn]
    refine ⟨plain_append h.plain (plain_cut r c reason), ⟨.closed reason, rfl⟩, ?_, ?_⟩
    · change SubscriberAwaits true _ _ (List.filterMap _ (r.underway ++ _)) r.world.cut.subscribe []
      rw [List.filterMap_append, subscriberReplies_cut hc, ← List.append_assoc]
      exact hs.cut reason
    · change PublisherAwaits true _ _ (List.filterMap _ (r.underway ++ _)) r.world.cut.publish false
      rw [List.filterMap_append, publisherReplies_cut hc, ← List.append_assoc]
      exact hp.cut reason

end Relay

namespace Relay

variable {r : Relay Scripted}

lemma Placed.happens (h : r.Placed) {put : List Update} {outcome : List Answer × Scripted}
    (ho : r.world.Happens put outcome) : (r.withWorld outcome).Placed := by
  have hs := h.subscriber
  have hp := h.publisher
  cases ho with
  | request result s stream blocked =>
    rw [stream] at hs
    obtain ⟨hphase, hnone, hoffers, isOpen⟩ := hs.of_blocked_send blocked
    refine h.of_subscriber rfl rfl rfl rfl rfl ?_ (plain_append h.plain (by simp [Delivery.isPlain])) ?_
    · simp [publisherReplies, withWorld, post]
    · rw [hoffers]
      change SubscriberAwaits _ _ r.subscriber (List.filterMap _ (r.underway ++ [_])) _ _
      rw [List.filterMap_append, show List.filterMap _ r.underway = [] from hnone, hphase]
      exact .requested rfl ⟨isOpen.unclosed, isOpen.same⟩
  | accepted update p stream blocked =>
    rw [stream] at hp
    obtain ⟨hphase, hnone, hasking, same⟩ := hp.of_sending blocked
    refine h.of_publisher rfl rfl rfl rfl rfl ?_ (plain_append h.plain (by simp [Delivery.isPlain])) ?_
    · simp [subscriberReplies, withWorld, post]
    · rw [hasking]
      change PublisherAwaits _ _ r.publisher (List.filterMap _ (r.underway ++ [_])) _ _
      rw [List.filterMap_append, show List.filterMap _ r.underway = [] from hnone, hphase]
      exact .sent rfl same
  | unaccepted update p failure stream blocked =>
    rw [stream] at hp
    obtain ⟨hphase, hnone, hasking, same⟩ := hp.of_sending blocked
    refine h.of_publisher rfl rfl rfl rfl rfl ?_ (plain_append h.plain (by simp [Delivery.isPlain])) ?_
    · simp [subscriberReplies, withWorld, post]
    · rw [hasking]
      change PublisherAwaits _ _ r.publisher (List.filterMap _ (r.underway ++ [_])) _ _
      rw [List.filterMap_append, show List.filterMap _ r.underway = [] from hnone, hphase]
      exact .sent rfl same
  | met item rest s stream unclosed blocked =>
    rw [stream] at hs
    obtain ⟨hphase, hnone, hoffers, isOpen, hqueue⟩ := hs.of_blocked_receive blocked
    refine h.of_subscriber rfl rfl rfl rfl rfl ?_ (plain_append h.plain (by simp [Delivery.isPlain])) ?_
    · simp [publisherReplies, withWorld, post]
    · rw [hoffers]
      change SubscriberAwaits _ _ r.subscriber (List.filterMap _ (r.underway ++ [_])) _ _
      rw [List.filterMap_append, show List.filterMap _ r.underway = [] from hnone, hphase]
      exact .received rfl ⟨isOpen.unclosed, isOpen.same⟩
  | queued items s stream unclosed unmet =>
    rw [stream] at hs
    refine h.of_subscriber rfl rfl rfl rfl rfl ?_ (plain_append h.plain (by simp)) ?_
    · simp [publisherReplies, withWorld, post]
    · have hqueue : s.blocked = some .receive → s.queue ++ items = [] := fun hb => by
        obtain ⟨-, -, -, -, hq⟩ := hs.of_blocked_receive hb
        rw [hq, unmet hb]
        rfl
      have := hs.enqueue hqueue
      simpa [subscriberReplies, withWorld, post] using this

end Relay

namespace Relay

variable {r : Relay Scripted}

lemma Placed.fresh (h : r.Placed) (hl : ∀ side, r.isLive side = false) : r.fresh.Placed := by
  obtain ⟨hs, hus⟩ := h.subscriber.of_not_live (hl .subscribe)
  obtain ⟨hp, hup⟩ := h.publisher.of_not_live (hl .publish)
  refine ⟨h.plain, ⟨.idle, rfl⟩, ?_, ?_⟩
  · change SubscriberAwaits false _ none r.subscriberReplies r.world.subscribe []
    rw [hs]
    exact .absent hus
  · change PublisherAwaits false _ none r.publisherReplies r.world.publish false
    rw [hp]
    exact .absent hup

lemma Placed.note (h : r.Placed) (n : Note) : (r.note n).Placed :=
  ⟨h.plain, h.channel, h.subscriber, h.publisher⟩

lemma Placed.subscriberStarts {r' : Relay Scripted} (h : r.Placed) (hn : r.subscriber = none)
    (hc : r.handoff = Channel.idle.handoff r.number) (hr : SubscriberStarts r r') : r'.Placed := by
  have hcan : r.isCancelled = false := by
    rw [isCancelled_channel hc]
    rfl
  have hs := h.subscriber
  rw [hn] at hs
  obtain ⟨hnone, hun⟩ := hs.of_not_live rfl
  have hoffers : r.handoff.senders.map (·.value) = [] := by
    rw [hc]
    rfl
  cases hr with
  | failed failure =>
    refine h.of_subscriber rfl rfl rfl rfl rfl ?_ (plain_append h.plain (by simp [Delivery.isPlain])) ?_
    · simp [publisherReplies]
    · rw [hoffers, hcan]
      change SubscriberAwaits _ _ _ (List.filterMap _ (r.underway ++ [_])) _ _
      rw [List.filterMap_append, show List.filterMap _ r.underway = [] from hnone]
      exact .ended hun
  | requested ns offers =>
    refine h.of_subscriber rfl rfl rfl rfl rfl ?_ (plain_append h.plain (by simp [Delivery.isPlain])) ?_
    · simp [publisherReplies]
    · rw [hoffers, hcan]
      change SubscriberAwaits _ _ _ (List.filterMap _ (r.underway ++ [_])) _ _
      rw [List.filterMap_append, show List.filterMap _ r.underway = [] from hnone]
      exact .requested rfl ⟨rfl, rfl⟩
  | requests ns offers =>
    refine h.of_subscriber rfl rfl rfl rfl rfl rfl h.plain ?_
    rw [hoffers, hcan]
    change SubscriberAwaits _ _ _ r.subscriberReplies _ _
    rw [hnone]
    exact .requesting rfl ⟨rfl, rfl⟩ (Or.inl rfl)

lemma Placed.publisherStarts {r' : Relay Scripted} (h : r.Placed) (hn : r.publisher = none)
    (hc : r.handoff = Channel.idle.handoff r.number) (hr : PublisherStarts r r') : r'.Placed := by
  have hcan : r.isCancelled = false := by
    rw [isCancelled_channel hc]
    rfl
  have hp := h.publisher
  rw [hn] at hp
  obtain ⟨hnone, hun⟩ := hp.of_not_live rfl
  cases hr with
  | failed failure =>
    refine h.of_publisher rfl rfl rfl rfl rfl ?_ (plain_append h.plain (by simp [Delivery.isPlain])) ?_
    · simp [subscriberReplies]
    · rw [hc, hcan]
      change PublisherAwaits _ _ _ (List.filterMap _ (r.underway ++ [_])) _ _
      rw [List.filterMap_append, show List.filterMap _ r.underway = [] from hnone]
      exact .ended hun
  | asks ns offers =>
    have hs := h.subscriber
    rw [hcan, hc] at hs
    refine ⟨h.plain, ⟨.asking, rfl⟩, hs, ?_⟩
    change PublisherAwaits false _ _ r.publisherReplies _ true
    rw [hnone]
    exact .taking rfl rfl rfl

lemma Placed.startPair (h : r.Placed) (hl : ∀ side, r.isLive side = false) (status : BridgeStatus) :
    (r.startPair status).Placed := by
  obtain ⟨r₁, hs, hidle, hnone, hp⟩ := r.startPair_starts status
  have h₁ : r₁.Placed := ((h.fresh hl).note _).subscriberStarts rfl rfl hs
  exact (h₁.note _).publisherStarts hnone hidle hp

/-- News of an end is no reply to a session. -/
lemma Placed.of_ended (h : r.Placed) {side : Side} {failure : Failure} {rest : List Delivery}
    (hu : r.underway = .ended side failure :: rest) : { r with underway := rest }.Placed := by
  have hs : r.subscriberReplies = rest.filterMap Delivery.subscriberReply? :=
    (subscriberReplies_of hu).trans rfl
  have hp : r.publisherReplies = rest.filterMap Delivery.publisherReply? :=
    (publisherReplies_of hu).trans rfl
  refine h.of_subscriber rfl rfl rfl rfl rfl hp.symm (fun d hd => ?_) ?_
  · exact h.plain d (hu ▸ List.mem_cons_of_mem _ hd)
  · have := h.subscriber
    rwa [hs] at this

/-- Every step of an attempt keeps the places. -/
theorem Placed.step {r' : Relay Scripted} {put : List Update} (h : r.Placed) (hs : r.Step put r') :
    r'.Placed := by
  cases hs with
  | noted ns => exact ⟨h.plain, h.channel, h.subscriber, h.publisher⟩
  | cancelled reason => exact h.cancel reason
  | happened _ outcome happens => exact h.happens happens
  | answered n a rest r' first done =>
    cases a with
    | subscriber reply => exact h.answered_subscriber first done
    | publisher reply => exact h.answered_publisher first done
    | later a => cases done
  | heard side failure rest ns first =>
    have hc := (h.of_ended first).cancel failure
    exact ⟨hc.plain, hc.channel, hc.subscriber, hc.publisher⟩

end Relay

namespace Bridge

/-- The updates that an event puts on the stream, if it applies. -/
def putBy (b : Bridge Scripted) : BridgeEvent Scripted.Event → List Update
  | .endpoint event => if (Scripted.occur event b.relay.world).isSome then event.put else []
  | _ => []

/-- What an event does to the relay of a bridge: a step of the attempt, or the start of the next. -/
inductive RelayStep (b : Bridge Scripted) (put : List Update) (b' : Bridge Scripted) : Prop
  | within (same : b'.attempts = b.attempts) (step : b.relay.Step put b'.relay)
  | starts (next : b'.attempts = b.attempts + 1) (nothing : put = [])
    (dead : ∀ side, b.relay.isLive side = false)
    (fresh : b'.relay = (b.relay.note (.log (.attemptStarted (b.attempts + 1)))).startPair .running)

lemma RelayStep.still (b : Bridge Scripted) : b.RelayStep [] b :=
  .within rfl (by simpa using Relay.Step.noted (r := b.relay) [] rfl)

lemma relayStep_of_transition {b b' : Bridge Scripted} {e : BridgeEvent Scripted.Event}
    (hb : b.Lifecycle) (h : b.relay.Placed) (he : ∀ event, e ≠ .endpoint event)
    (ht : Transition Scripted.occur b e b') : b.RelayStep [] b' := by
  have dead (hz : b.active = 0) (side : Side) : b.relay.isLive side = false := by
    have := hb.unfinished_eq_zero hz side
    unfold unfinished at this
    simpa using (Nat.add_eq_zero_iff.mp this).1
  have paused {pause : Pause} (hp : b.pause = some pause) : b.active = 0 :=
    hb.active_eq_zero (Or.inr (Option.isSome_of_eq_some hp))
  have heard {side : Side} {failure : Failure} {rest : List Delivery}
      (first : b.relay.underway = .ended side failure :: rest) (ns : List Note)
      (hn : Note.Offers [] ns) : b.relay.Step [] { (b.hear side failure rest).relay with
        history := (b.hear side failure rest).relay.history ++ ns } := by
    have he : (b.hear side failure rest).relay = { { b.relay with underway := rest }.cancel failure with
        history := b.relay.history ++ [.sessionEnded side failure] } :=
      Relay.cancel_note _ _ failure
    rw [he]
    have := Relay.Step.heard side failure rest (.sessionEnded side failure :: ns) first hn
    simpa using this
  have stopped (run : BridgeRun) : b.relay.Step [] (b.stop run).relay := by
    simpa [Bridge.stop, Bridge.note, Relay.note] using Relay.Step.noted (r := b.relay)
      [.log (.bridgeStopped b.stats), .runEnded run.number (.ok b.stats)] rfl
  cases ht with
  | still => exact .still b
  | refused run busy => exact .within rfl (.noted [_] rfl)
  | started run isFree going more =>
    have hr : b.run = none := by simpa [isFree] using hb.isBusy_iff
    exact .starts rfl rfl (dead (hb.active_eq_zero (Or.inl hr))) rfl
  | declined run isFree spent => exact .within rfl (stopped run)
  | signalled signal reason fresh other =>
    exact .within rfl (by simpa using Relay.Step.noted (r := b.relay) [] rfl)
  | cancelled signal reason run fresh current own unpaused => exact .within rfl (.cancelled reason)
  | interrupted signal reason run pause fresh current own isPaused => exact .within rfl (stopped run)
  | waited duration => exact .within rfl (by simpa using Relay.Step.noted (r := b.relay) [] rfl)
  | resumed duration run pause current isPaused going more =>
    exact .starts rfl rfl (dead (paused isPaused)) rfl
  | completed duration run pause current isPaused spent => exact .within rfl (stopped run)
  | occurred event => exact absurd rfl (he event)
  | answered n a rest first => exact .within rfl (.answered n a rest _ first (h.answered first))
  | guestAnswered number outcome rest first =>
    have := h.plain _ (first ▸ List.mem_cons_self)
    cases this
  | rejected side failure rest first left => exact .within rfl (by simpa using heard first [] rfl)
  | joinedStopped side failure rest run first last current isStopped =>
    exact .within rfl (by
      simpa [Bridge.stop, Bridge.note, Relay.note] using heard first
        [.log (.bridgeStopped (b.hear side failure rest).stats),
          .runEnded run.number (.ok (b.hear side failure rest).stats)] rfl)
  | joinedFailed side failure rest run first last current going =>
    obtain ⟨failures, cause, attempt, forwarded, delay, hlog⟩ :
        ∃ failures cause attempt forwarded delay,
          (b.hear side failure rest).startPause.relay = { (b.hear side failure rest).relay with
            history := (b.hear side failure rest).relay.history ++
              [.backoffAsked failures, .log (.retrying cause attempt forwarded delay)] } :=
      ⟨_, _, _, _, _, Relay.note_note _ _ _⟩
    refine .within rfl ?_
    rw [hlog]
    exact heard first _ rfl

theorem relayStep {b : Bridge Scripted} (hb : b.Lifecycle) (h : b.relay.Placed)
    (e : BridgeEvent Scripted.Event) : b.RelayStep (b.putBy e) (b.step Scripted.occur e) := by
  cases e with
  | endpoint event =>
    rcases ho : Scripted.occur event b.relay.world with _ | outcome
    · simpa [step, occur?, Relay.occur?, putBy, ho] using RelayStep.still b
    · have := Scripted.happens_of_occur ho
      simp only [step, occur?, Relay.occur?, putBy, ho]
      exact .within rfl (.happened _ outcome this)
  | start run => exact relayStep_of_transition hb h (by simp) (step_transition _ b _)
  | abort signal reason => exact relayStep_of_transition hb h (by simp) (step_transition _ b _)
  | elapse duration => exact relayStep_of_transition hb h (by simp) (step_transition _ b _)
  | turn => exact relayStep_of_transition hb h (by simp) (step_transition _ b _)

lemma placed_create (script : Script) (request : SubscribeRequest) (metadata : Option Login)
    (policy : Backoff.Policy) (timer : Backoff.Timer) :
    (create ({ script } : Scripted) request metadata policy timer).relay.Placed :=
  ⟨by simp [create], ⟨.idle, rfl⟩, .absent (by simp [create, Unsubscribed]),
    .absent (by simp [create])⟩

lemma placed_step {b : Bridge Scripted} (hb : b.Lifecycle) (h : b.relay.Placed)
    (e : BridgeEvent Scripted.Event) : (b.step Scripted.occur e).relay.Placed := by
  cases relayStep hb h e with
  | within same step => exact h.step step
  | starts next nothing dead fresh =>
    rw [fresh]
    refine (h.note _).startPair (fun side => ?_) .running
    rw [← dead side]
    cases side <;> rfl

/-- After every run over scripted streams both sessions are in their places. -/
theorem placed_after (script : Script) (request : SubscribeRequest) (metadata : Option Login)
    (policy : Backoff.Policy) (timer : Backoff.Timer) (events : List (BridgeEvent Scripted.Event)) :
    ((create { script } request metadata policy timer).after Scripted.occur events).Lifecycle ∧
      ((create { script } request metadata policy timer).after Scripted.occur events).relay.Placed :=
  after_induction (P := fun b => b.Lifecycle ∧ b.relay.Placed)
    (fun _ e h => ⟨h.1.step _ e, placed_step h.1 h.2 e⟩)
    ⟨lifecycle_create _ request metadata policy timer,
      placed_create script request metadata policy timer⟩ events

end Bridge

end TelemetryBridge
