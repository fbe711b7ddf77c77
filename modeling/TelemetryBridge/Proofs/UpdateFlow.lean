import TelemetryBridge.Proofs.PlacesKept

/-!
# Updates on their way

Where the updates of an attempt are between the two streams, and how a step moves them. An update
leaves the queue of the stream when it is received, waits at the hand-off, is taken, and is then sent
to the collector. `Relay.Flow` says what a step may do to this line; `Relay.Placed.flow` says that
every step obeys it.
-/

namespace TelemetryBridge

/-- The update that a reply brings to the subscribe session. -/
def SubscribeSession.Reply.update? : SubscribeSession.Reply → Option Update
  | .received (.ok update) => update
  | _ => none

/-- The update that a reply brings to the publish session. -/
def PublishSession.Reply.update? : PublishSession.Reply → Option Update
  | .taken (.ok update) => some update
  | _ => none

/-- Whether a reply says that the collector has accepted an update. -/
def PublishSession.Reply.isAccepted : PublishSession.Reply → Bool
  | .sent (.ok ()) => true
  | _ => false

lemma SubscribeSession.updates_of_asks {phase : SubscribeSession.Phase}
    {reply : SubscribeSession.Reply} (h : SubscribeSession.Asks phase reply) :
    [reply].filterMap (·.update?) = [] := by
  rcases h with ⟨-, rfl⟩ | ⟨update, -, rfl⟩ <;> rfl

lemma StreamItem.updates_cons (item : StreamItem) (items : List StreamItem) :
    StreamItem.updates (item :: items) =
      [SubscribeSession.Reply.received item.result].filterMap (·.update?) ++ updates items := by
  cases item <;> rfl

namespace Relay

/-- The updates that are underway to the publish session. -/
def taken (r : Relay Scripted) : List Update := r.publisherReplies.filterMap (·.update?)

/-- The updates that wait at the hand-off. -/
def offers (r : Relay Scripted) : List Update := r.handoff.senders.map (·.value)

/-- The updates that are underway to the subscribe session. -/
def received (r : Relay Scripted) : List Update := r.subscriberReplies.filterMap (·.update?)

/-- What the target has put on the stream and nobody has received. -/
def queue (r : Relay Scripted) : List StreamItem := r.world.subscribe.elim [] (·.queue)

/-- The updates between the streams, in the order in which they were put on the first one. -/
def between (r : Relay Scripted) : List Update :=
  r.taken ++ (r.offers ++ (r.received ++ StreamItem.updates r.queue))

/-- The update that is sent to the collector and is not accepted. -/
def unaccepted (r : Relay Scripted) : List Update :=
  match r.publisher with
  | some (.sending update) => if r.publisherReplies.any (·.isAccepted) then [] else [update]
  | _ => []

/-- What a step that puts the given updates on the stream, offers some to the collector and has some
accepted may do to the updates of an attempt. -/
structure Flow (r : Relay Scripted) (put : List Update) (r' : Relay Scripted)
    (offered accepted : List Update) : Prop where
  notes : ∃ ns, r'.history = r.history ++ ns ∧ Note.Offers offered ns
  accepts : r'.world.accepted = r.world.accepted ++ accepted
  sends : r'.isLive .publish = true →
    r.isLive .publish = true ∧ r.unaccepted ++ offered = accepted ++ r'.unaccepted
  silent : r'.isLive .publish = false → offered = [] ∧ accepted = []
  -- An update that goes through the hand-off is new to the publish session. Then the scope goes on, and
  -- `moves` tells where the update came from.
  takes : r.taken = offered ++ r'.taken ∨ r'.isLive .subscribe = true ∧ r'.isCancelled = false
  moves : r'.isLive .subscribe = true → r'.isCancelled = false →
    r.isLive .subscribe = true ∧ r.isCancelled = false ∧ r.between ++ put = offered ++ r'.between

variable {r r' : Relay Scripted} {put : List Update}

/-- A step that sends nothing and settles no send. -/
lemma Flow.of_within (notes : ∃ ns, r'.history = r.history ++ ns ∧ Note.Offers [] ns)
    (accepts : r'.world.accepted = r.world.accepted)
    (sends : r'.isLive .publish = true → r.isLive .publish = true ∧ r.unaccepted = r'.unaccepted)
    (takes : r.taken = r'.taken ∨ r'.isLive .subscribe = true ∧ r'.isCancelled = false)
    (moves : r'.isLive .subscribe = true → r'.isCancelled = false →
      r.isLive .subscribe = true ∧ r.isCancelled = false ∧ r.between ++ put = r'.between) :
    r.Flow put r' [] [] where
  notes := notes
  accepts := by rw [accepts, List.append_nil]
  sends hl := by
    rw [List.append_nil]
    exact sends hl
  silent _ := ⟨rfl, rfl⟩
  takes := takes
  moves := moves

lemma unaccepted_congr (hp : r'.publisher = r.publisher)
    (hr : r'.publisherReplies = r.publisherReplies) : r'.unaccepted = r.unaccepted := by
  rw [unaccepted, unaccepted, hp, hr]

lemma taken_congr (hr : r'.publisherReplies = r.publisherReplies) : r'.taken = r.taken := by
  rw [taken, taken, hr]

lemma received_congr (hr : r'.subscriberReplies = r.subscriberReplies) :
    r'.received = r.received := by
  rw [received, received, hr]

/-! ## Answers -/

/-- A step that leaves the publish session and what is underway to it alone. -/
lemma Flow.of_subscriber (notes : ∃ ns, r'.history = r.history ++ ns ∧ Note.Offers [] ns)
    (accepts : r'.world.accepted = r.world.accepted) (same : r'.publisher = r.publisher)
    (replies : r'.publisherReplies = r.publisherReplies)
    (live : r'.isLive .subscribe = true → r.isLive .subscribe = true)
    (scope : r'.isCancelled = r.isCancelled)
    (moves : r'.isLive .subscribe = true → r.isCancelled = false → r.between ++ put = r'.between) :
    r.Flow put r' [] [] := by
  refine .of_within notes accepts (fun hl => ⟨?_, (unaccepted_congr same replies).symm⟩)
    (Or.inl (taken_congr replies).symm) fun hl hc => ⟨live hl, scope ▸ hc, moves hl (scope ▸ hc)⟩
  rwa [isLive_publish_congr same] at hl

/-- The updates on their way, by the deliveries underway of which the first ones are not for the
subscribe session. -/
lemma between_eq {rest ds : List Delivery} {offers : List Update} {items : List StreamItem}
    (hu : r.underway = rest ++ ds) (hs : rest.filterMap Delivery.subscriberReply? = [])
    (ho : r.offers = offers) (hq : r.queue = items) :
    r.between = (rest.filterMap Delivery.publisherReply?).filterMap (·.update?) ++
      ((ds.filterMap Delivery.publisherReply?).filterMap (·.update?) ++ (offers ++
        ((ds.filterMap Delivery.subscriberReply?).filterMap (·.update?) ++
          StreamItem.updates items))) := by
  unfold between taken received publisherReplies subscriberReplies
  rw [hu, List.filterMap_append, List.filterMap_append, List.filterMap_append, hs, ho, hq,
    List.nil_append, List.append_assoc]

/-- An answer to the subscribe session moves an update from the queue to the session, from there to
the hand-off, or through it. -/
lemma Placed.flow_subscriber {n : Nat} {reply : SubscribeSession.Reply} {rest : List Delivery}
    (h : r.Placed) (hu : r.underway = .answer n (.subscriber reply) :: rest)
    (ha : Answered { r with underway := rest } (.subscriber reply) r') : r.Flow [] r' [] [] := by
  have hsr : r.subscriberReplies = reply :: rest.filterMap Delivery.subscriberReply? :=
    subscriberReplies_of hu
  have hpr : r.publisherReplies = rest.filterMap Delivery.publisherReply? :=
    (publisherReplies_of hu).trans rfl
  have hsub := h.subscriber
  rw [hsr] at hsub
  obtain ⟨hnone, ho, -, hphase⟩ := hsub.of_reply
  have hlive : r.isLive .subscribe = true := by
    rcases hphase with ⟨hs, -⟩ | ⟨hs, -⟩ | ⟨update, result, hs, -⟩ <;>
      rw [isLive_subscribe hs] <;> rfl
  have hcan : r'.isCancelled = r.isCancelled :=
    isCancelled_answered (r := { r with underway := rest }) ha
  have hbetween : r.between = (rest.filterMap Delivery.publisherReply?).filterMap (·.update?) ++
      ([reply].filterMap (·.update?) ++ StreamItem.updates r.queue) := by
    unfold between taken received
    rw [hsr, hpr, hnone]
    change _ ++ (r.handoff.senders.map (·.value) ++ _) = _
    rw [ho, List.nil_append]
  cases ha with
  | served phase _ ns s item items current asks told stream front =>
    refine .of_subscriber ⟨ns, rfl, told⟩ rfl rfl ?_ (fun _ => hlive) hcan fun _ _ => ?_
    · rw [hpr]
      simp [publisherReplies]
    · replace stream : r.world.subscribe = some s := stream
      have hq : r.queue = item :: items := by simp [queue, stream, front]
      rw [List.append_nil, hbetween, hq, StreamItem.updates_cons,
        SubscribeSession.updates_of_asks asks]
      refine Eq.trans ?_ (Eq.symm (between_eq rfl hnone ho rfl))
      rfl
  | unserved phase _ ns s failure current asks told stream drained =>
    refine .of_subscriber ⟨ns, rfl, told⟩ rfl rfl ?_ (fun _ => hlive) hcan fun _ _ => ?_
    · rw [hpr]
      simp [publisherReplies]
    · rw [List.append_nil, hbetween, SubscribeSession.updates_of_asks asks]
      refine Eq.trans ?_ (Eq.symm (between_eq rfl hnone ho rfl))
      rfl
  | waits phase _ ns s current asks told stream drained may =>
    refine .of_subscriber ⟨ns, rfl, told⟩ rfl rfl hpr.symm (fun _ => hlive) hcan fun _ _ => ?_
    replace stream : r.world.subscribe = some s := stream
    have hq : r.queue = s.queue := by simp [queue, stream]
    rw [List.append_nil, hbetween, hq, SubscribeSession.updates_of_asks asks]
    refine Eq.trans ?_ (Eq.symm (between_eq (List.append_nil rest).symm hnone ho rfl))
    rfl
  | held update ns current told idle =>
    refine .of_subscriber ⟨ns, rfl, told⟩ rfl rfl hpr.symm (fun _ => hlive) hcan fun _ _ => ?_
    rw [List.append_nil, hbetween]
    refine Eq.trans ?_ (Eq.symm (between_eq (List.append_nil rest).symm hnone rfl rfl))
    rfl
  | handed update ns current told asked =>
    replace asked : r.handoff = Channel.asking.handoff r.number := asked
    have hc : r.isCancelled = false := by
      rw [isCancelled_channel asked]
      rfl
    have hpub := h.publisher
    rw [hpr, asked] at hpub
    obtain ⟨hp, hr, -⟩ := hpub.of_asking
    refine .of_within ⟨ns, rfl, told⟩ rfl (fun hl => ⟨hl, ?_⟩) (Or.inr ⟨rfl, hcan.trans hc⟩)
      fun _ _ => ⟨hlive, hc, ?_⟩
    · simp [unaccepted, hp]
    · rw [List.append_nil, hbetween]
      refine Eq.trans ?_ (Eq.symm (between_eq rfl hnone rfl rfl))
      rfl
  | refused update ns reason current told closed =>
    refine .of_subscriber ⟨ns, rfl, told⟩ rfl rfl ?_ (fun _ => hlive) hcan fun _ hc => ?_
    · rw [hpr]
      simp [publisherReplies]
    · replace closed : r.handoff = (Channel.closed reason).handoff r.number := closed
      rw [isCancelled_channel closed] at hc
      cases hc
  | subscriberEnds phase _ ns failure current fails told =>
    refine .of_subscriber ⟨ns, rfl, told⟩ rfl rfl ?_ (fun _ => hlive) hcan fun hl => ?_
    · rw [hpr]
      simp [publisherReplies]
    · cases hl

lemma Flow.of_sent {update : Update} {accepted : List Update}
    (notes : ∃ ns, r'.history = r.history ++ ns ∧ Note.Offers [update] ns)
    (accepts : r'.world.accepted = r.world.accepted ++ accepted) (phase : r.publisher = some .taking)
    (replies : r.publisherReplies = [.taken (.ok update)]) (sending : [update] = accepted ++ r'.unaccepted)
    (nothing : r'.taken = []) (offers : r'.offers = r.offers)
    (others : r'.subscriberReplies = r.subscriberReplies) (queue : r'.queue = r.queue)
    (same : r'.subscriber = r.subscriber)
    (live : r'.isLive .publish = true) (scope : r'.isCancelled = r.isCancelled) :
    r.Flow [] r' [update] accepted := by
  have htaken : r.taken = [update] := by
    unfold taken
    rw [replies]
    rfl
  refine ⟨notes, accepts, fun _ => ⟨?_, ?_⟩, fun hl => ?_, Or.inl ?_, fun hl hc => ⟨?_, scope ▸ hc, ?_⟩⟩
  · rw [isLive_publish phase]
    rfl
  · have hnone : r.unaccepted = [] := by simp [unaccepted, phase]
    rw [hnone]
    exact sending
  · rw [live] at hl
    cases hl
  · rw [htaken, nothing, List.append_nil]
  · rwa [isLive_subscribe_congr same] at hl
  · unfold between
    rw [htaken, nothing, offers, received_congr others, queue, List.append_nil, List.nil_append]

lemma Flow.of_publisher (notes : ∃ ns, r'.history = r.history ++ ns ∧ Note.Offers [] ns)
    (accepts : r'.world.accepted = r.world.accepted)
    (sends : r'.isLive .publish = true → r.isLive .publish = true ∧ r.unaccepted = r'.unaccepted)
    (taken : r'.taken = r.taken) (offers : r'.offers = r.offers)
    (others : r'.subscriberReplies = r.subscriberReplies) (queue : r'.queue = r.queue)
    (same : r'.subscriber = r.subscriber)
    (scope : r'.isCancelled = r.isCancelled) : r.Flow [] r' [] [] := by
  refine .of_within notes accepts sends (Or.inl taken.symm) fun hl hc => ⟨?_, scope ▸ hc, ?_⟩
  · rwa [isLive_subscribe_congr same] at hl
  · unfold between
    rw [taken, offers, received_congr others, queue, List.append_nil]

lemma Placed.flow_publisher {n : Nat} {reply : PublishSession.Reply} {rest : List Delivery}
    (h : r.Placed) (hu : r.underway = .answer n (.publisher reply) :: rest)
    (ha : Answered { r with underway := rest } (.publisher reply) r') :
    ∃ offered accepted, r.Flow [] r' offered accepted := by
  have hsr : r.subscriberReplies = rest.filterMap Delivery.subscriberReply? :=
    (subscriberReplies_of hu).trans rfl
  have hpr : r.publisherReplies = reply :: rest.filterMap Delivery.publisherReply? :=
    publisherReplies_of hu
  have hpub := h.publisher
  rw [hpr] at hpub
  obtain ⟨hnone, -, -, hphase⟩ := hpub.of_reply
  rw [hnone] at hpr
  have hcan : r'.isCancelled = r.isCancelled :=
    isCancelled_answered (r := { r with underway := rest }) ha
  cases ha with
  | accepted update ns current told =>
    refine ⟨[update], [update], .of_sent ⟨ns, rfl, told⟩ rfl current hpr ?_ ?_ rfl ?_ rfl rfl rfl hcan⟩
    · simp [unaccepted, publisherReplies, hnone, PublishSession.Reply.isAccepted]
    · simp [taken, publisherReplies, hnone, PublishSession.Reply.update?]
    · rw [hsr]
      simp [subscriberReplies]
  | unaccepted update ns failure current told =>
    refine ⟨[update], [], .of_sent ⟨ns, rfl, told⟩ (List.append_nil _).symm current hpr ?_ ?_ rfl ?_ rfl
      rfl rfl hcan⟩
    · simp [unaccepted, publisherReplies, hnone, PublishSession.Reply.isAccepted]
    · simp [taken, publisherReplies, hnone, PublishSession.Reply.update?]
    · rw [hsr]
      simp [subscriberReplies]
  | sends update ns p current told stream may =>
    refine ⟨[update], [], .of_sent ⟨ns, rfl, told⟩ (List.append_nil _).symm current hpr ?_ ?_ rfl ?_ rfl
      rfl rfl hcan⟩
    · simp [unaccepted, publisherReplies, hnone, PublishSession.Reply.isAccepted]
    · simp [taken, publisherReplies, hnone]
    · rw [hsr]
      simp [subscriberReplies]
  | asks update ns current told idle =>
    replace current : r.publisher = some (.sending update) := current
    replace idle : r.handoff = Channel.idle.handoff r.number := idle
    refine ⟨[], [], .of_publisher ⟨ns, rfl, told⟩ rfl (fun _ => ⟨?_, ?_⟩) ?_ ?_ hsr.symm rfl rfl hcan⟩
    · rw [isLive_publish current]
      rfl
    · simp [unaccepted, current, hpr, PublishSession.Reply.isAccepted]
    · simp [taken, publisherReplies, hnone, hu, PublishSession.Reply.update?]
    · unfold offers
      rw [idle]
      rfl
  | takes update next ns current told offered =>
    replace current : r.publisher = some (.sending update) := current
    replace offered : r.handoff = (Channel.offering next).handoff r.number := offered
    have hc : r.isCancelled = false := by
      rw [isCancelled_channel offered]
      rfl
    have hsub := h.subscriber
    rw [offered] at hsub
    obtain ⟨hs, hr, -⟩ := hsub.of_offer
    have hlive : r.isLive .subscribe = true := by
      rw [isLive_subscribe hs]
      rfl
    have hrest : rest.filterMap Delivery.subscriberReply? = [] := hsr ▸ hr
    refine ⟨[], [], .of_within ⟨ns, rfl, told⟩ rfl (fun _ => ⟨?_, ?_⟩) (Or.inr ⟨hlive, hcan.trans hc⟩)
      fun _ _ => ⟨hlive, hc, ?_⟩⟩
    · rw [isLive_publish current]
      rfl
    · simp [unaccepted, current, hpr, PublishSession.Reply.isAccepted]
    · have ho : r.offers = [next] := by
        unfold offers
        rw [offered]
        rfl
      have hbetween : r.between = next :: StreamItem.updates r.queue := by
        unfold between taken received
        rw [ho, hpr, hr]
        rfl
      rw [List.append_nil, hbetween]
      refine Eq.trans ?_ (Eq.symm (between_eq rfl hrest rfl rfl))
      rw [hnone]
      rfl
  | barred update ns reason current told closed =>
    replace current : r.publisher = some (.sending update) := current
    refine ⟨[], [], .of_publisher ⟨ns, rfl, told⟩ rfl (fun _ => ⟨?_, ?_⟩) ?_ rfl ?_ rfl rfl hcan⟩
    · rw [isLive_publish current]
      rfl
    · simp [unaccepted, current, hpr, PublishSession.Reply.isAccepted]
    · simp [taken, publisherReplies, hnone, hu, PublishSession.Reply.update?]
    · rw [hsr]
      simp [subscriberReplies]
  | publisherEnds phase _ ns failure current fails told =>
    have htaken : r.taken = [] := by
      unfold taken
      rw [hpr]
      cases fails <;> rfl
    refine ⟨[], [], .of_publisher ⟨ns, rfl, told⟩ rfl (fun hl => ?_) ?_ rfl ?_ rfl rfl hcan⟩
    · cases hl
    · rw [htaken]
      simp [taken, publisherReplies, hnone]
    · rw [hsr]
      simp [subscriberReplies]

/-! ## Cancellation -/

lemma publisherCut_fails {w : Scripted} {reply : PublishSession.Reply} (h : reply ∈ w.publisherCut) :
    reply.isAccepted = false ∧ reply.update? = none := by
  unfold Scripted.publisherCut at h
  split at h
  · cases h
  · split at h
    · rw [List.mem_singleton.mp h]
      exact ⟨rfl, rfl⟩
    · cases h

lemma Placed.cancel_replies (h : r.Placed) (reason : Failure) :
    ∃ fails : List PublishSession.Reply,
      (∀ reply ∈ fails, reply.isAccepted = false ∧ reply.update? = none) ∧
        (r.cancel reason).publisherReplies = r.publisherReplies ++ fails := by
  cases hn : r.isCancelled with
  | true =>
    rw [cancel_of_isCancelled hn]
    exact ⟨[], fun _ hm => absurd hm List.not_mem_nil, (List.append_nil _).symm⟩
  | false =>
    obtain ⟨c, hc⟩ := h.channel
    rw [cancel_eq hc hn]
    refine ⟨_, fun reply hm => ?_, List.filterMap_append⟩
    rw [publisherReplies_cut hc] at hm
    rcases List.mem_append.mp hm with hm | hm
    · exact publisherCut_fails hm
    · split at hm
      · rw [List.mem_singleton.mp hm]
        exact ⟨rfl, rfl⟩
      · cases hm

/-- In a scope that is cancelled an update may get lost, but none is sent. -/
lemma Flow.of_cancelled {fails : List PublishSession.Reply}
    (notes : ∃ ns, r'.history = r.history ++ ns ∧ Note.Offers [] ns)
    (accepts : r'.world.accepted = r.world.accepted) (same : r'.publisher = r.publisher)
    (failed : ∀ reply ∈ fails, reply.isAccepted = false ∧ reply.update? = none)
    (replies : r'.publisherReplies = r.publisherReplies ++ fails) (cancelled : r'.isCancelled = true) :
    r.Flow [] r' [] [] := by
  refine .of_within notes accepts (fun hl => ⟨?_, ?_⟩) (Or.inl ?_) fun _ hc => ?_
  · rwa [isLive_publish_congr same] at hl
  · have hany : fails.any (·.isAccepted) = false := by
      rw [List.any_eq_false]
      intro reply hm
      rw [(failed reply hm).1]
      exact Bool.false_ne_true
    unfold unaccepted
    rw [same, replies, List.any_append, hany, Bool.or_false]
  · have hnone : fails.filterMap (·.update?) = [] := by
      rw [List.filterMap_eq_nil_iff]
      intro reply hm
      exact (failed reply hm).2
    unfold taken
    rw [replies, List.filterMap_append, hnone, List.append_nil]
  · rw [cancelled] at hc
    cases hc

lemma Placed.flow_cancel (h : r.Placed) (reason : Failure) : r.Flow [] (r.cancel reason) [] [] := by
  obtain ⟨hh, hp, ha, -⟩ := r.cancel_frame reason
  obtain ⟨fails, hf, hr⟩ := h.cancel_replies reason
  exact .of_cancelled ⟨[], by rw [hh, List.append_nil], rfl⟩ ha hp hf hr (h.isCancelled_cancel reason)

lemma Placed.flow_heard {side : Side} {failure : Failure} {rest : List Delivery} {ns : List Note}
    (h : r.Placed) (hu : r.underway = .ended side failure :: rest) (hn : Note.Offers [] ns) :
    r.Flow [] { { r with underway := rest }.cancel failure with history := r.history ++ ns } [] [] := by
  have h₁ := h.of_ended hu
  have hreplies : r.publisherReplies = { r with underway := rest }.publisherReplies :=
    (publisherReplies_of hu).trans rfl
  obtain ⟨-, hp, ha, -⟩ := { r with underway := rest }.cancel_frame failure
  obtain ⟨fails, hf, hr⟩ := h₁.cancel_replies failure
  exact .of_cancelled ⟨ns, rfl, hn⟩ ha hp hf (by rw [hreplies]; exact hr)
    (h₁.isCancelled_cancel failure)

/-! ## Events -/

lemma StreamItem.updates_append (items items' : List StreamItem) :
    StreamItem.updates (items ++ items') = StreamItem.updates items ++ StreamItem.updates items' :=
  List.filterMap_append

lemma Placed.flow_happens (h : r.Placed) {outcome : List Answer × Scripted}
    (ho : r.world.Happens put outcome) :
    ∃ offered accepted, r.Flow put (r.withWorld outcome) offered accepted := by
  have hs := h.subscriber
  have hp := h.publisher
  have hnotes : ∃ ns, (r.withWorld outcome).history = r.history ++ ns ∧ Note.Offers [] ns :=
    ⟨[], (List.append_nil _).symm, rfl⟩
  cases ho with
  | request result s stream blocked =>
    rw [stream] at hs
    obtain ⟨hphase, hnone, -⟩ := hs.of_blocked_send blocked
    have hq : r.queue = s.queue := by simp [queue, stream]
    refine ⟨[], [], .of_subscriber hnotes rfl rfl ?_ id rfl fun _ _ => ?_⟩
    · simp [publisherReplies, withWorld, post]
    · rw [List.append_nil, between_eq (List.append_nil _).symm hnone rfl hq]
      refine Eq.trans ?_ (Eq.symm (between_eq rfl hnone rfl rfl))
      rfl
  | accepted update p stream blocked =>
    rw [stream] at hp
    obtain ⟨hphase, hnone, -⟩ := hp.of_sending blocked
    have hlive : r.isLive .publish = true := by
      rw [isLive_publish hphase]
      rfl
    have hheld : r.unaccepted = [update] := by simp [unaccepted, hphase, hnone]
    refine ⟨[], [update], hnotes, rfl, fun _ => ⟨hlive, ?_⟩, fun hl => ?_, Or.inl ?_,
      fun hl hc => ⟨hl, hc, ?_⟩⟩
    · rw [hheld]
      simp [unaccepted, publisherReplies, withWorld, post, PublishSession.Reply.isAccepted, hphase]
    · exact absurd (hlive.symm.trans hl) (by decide)
    · simp [taken, publisherReplies, withWorld, post, PublishSession.Reply.update?]
    · simp [between, taken, received, offers, queue, publisherReplies, subscriberReplies, withWorld,
        post, PublishSession.Reply.update?]
  | unaccepted update p failure stream blocked =>
    refine ⟨[], [], .of_publisher hnotes rfl (fun hl => ⟨hl, ?_⟩) ?_ rfl ?_ rfl rfl rfl⟩
    · simp [unaccepted, publisherReplies, withWorld, post, PublishSession.Reply.isAccepted]
    · simp [taken, publisherReplies, withWorld, post, PublishSession.Reply.update?]
    · simp [subscriberReplies, withWorld, post]
  | met item rest s stream unclosed blocked =>
    rw [stream] at hs
    obtain ⟨hphase, hnone, -, -, hqueue⟩ := hs.of_blocked_receive blocked
    have hq : r.queue = [] := by simp [queue, stream, hqueue]
    refine ⟨[], [], .of_subscriber hnotes rfl rfl ?_ id rfl fun _ _ => ?_⟩
    · simp [publisherReplies, withWorld, post]
    · rw [between_eq (List.append_nil _).symm hnone rfl hq, StreamItem.updates_cons]
      refine Eq.trans ?_ (Eq.symm (between_eq rfl hnone rfl rfl))
      change _ ++ (r.offers ++ []) ++ _ = _ ++ (r.offers ++ (_ ++ StreamItem.updates (s.queue ++ rest)))
      rw [hqueue, List.append_nil, List.append_assoc]
      rfl
  | queued items s stream unclosed unmet =>
    have hq : r.queue = s.queue := by simp [queue, stream]
    refine ⟨[], [], .of_subscriber hnotes rfl rfl ?_ id rfl fun _ _ => ?_⟩
    · simp [publisherReplies, withWorld, post]
    · unfold between
      rw [hq, List.append_assoc, List.append_assoc, List.append_assoc, ← StreamItem.updates_append]
      simp [taken, received, offers, queue, publisherReplies, subscriberReplies, withWorld, post]

/-- Every step of an attempt lets the updates flow. -/
theorem Placed.flow (h : r.Placed) (hs : r.Step put r') :
    ∃ offered accepted, r.Flow put r' offered accepted := by
  cases hs with
  | noted ns told =>
    exact ⟨[], [], .of_within ⟨ns, rfl, told⟩ rfl (fun hl => ⟨hl, rfl⟩) (Or.inl rfl)
      fun hl hc => ⟨hl, hc, List.append_nil _⟩⟩
  | cancelled reason => exact ⟨[], [], h.flow_cancel reason⟩
  | happened _ outcome happens => exact h.flow_happens happens
  | answered n a rest _ first done =>
    cases a with
    | subscriber reply => exact ⟨[], [], h.flow_subscriber first done⟩
    | publisher reply => exact h.flow_publisher first done
    | later a => cases done
  | heard side failure rest ns first told => exact ⟨[], [], h.flow_heard first told⟩

end Relay

end TelemetryBridge
