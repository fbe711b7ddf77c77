import TelemetryBridge.Proofs.SubscriberView

/-!
# Backpressure

Whatever the streams do, whoever takes updates from the hand-off and whenever signals are aborted, a
subscribe session keeps to its rounds. It asks for an update only when the one before has been taken,
so it never holds more than one, and it closes its stream when it ends.
-/

namespace TelemetryBridge

open SubscribeSession

namespace Relay

section

variable {ω ε : Type} [Endpoints ω] {occur : ε → ω → Option (List Answer × ω)} {n : Nat}
variable {delivered : List Delivery} {r : Relay ω}

/-! ## The subscribe session moves -/

lemma Sound.obeySubscriber (streams : StreamsAnswer occur) (h : r.Sound n)
    (command : SubscribeSession.Command) : (r.obeySubscriber command).Sound n := by
  have hn := h.note (.subscriberAsked command)
  cases command with
  | sendRequest => exact hn.withWorld (streams.sendRequest r.request r.world)
  | receive => exact hn.withWorld (streams.receive r.world)
  | offer update => exact hn.withHandoff (hn.apart.send rfl update .session)
  | close => exact hn.withWorld (streams.closeSubscribe r.world)
  | noteRequestSent => exact hn.note _

lemma Sound.moveSubscriber (streams : StreamsAnswer occur) (h : r.Sound n)
    (next : SubscribeSession.Phase × List SubscribeSession.Command) :
    (r.moveSubscriber next).Sound n := by
  apply moveSubscriber_induction
  · exact ⟨h.number, h.apart, h.late⟩
  · exact fun _ command h => h.obeySubscriber streams command
  · exact fun _ _ h => h.post (by simp)

/-- Commands for the stream. What is seen of them is that they were given. -/
lemma view_obeySubscriber (streams : StreamsAnswer occur) (r : Relay ω)
    {commands : List SubscribeSession.Command} (hc : ∀ update, .offer update ∉ commands) :
    (commands.foldl Relay.obeySubscriber r).view delivered =
      { r.view delivered with
        talk := (commands.map Note.subscriberAsked).foldl hear (r.view delivered).talk } := by
  induction commands generalizing r with
  | nil => rfl
  | cons command commands ih =>
    rw [List.foldl_cons, ih _ fun update hm => hc update (List.mem_cons_of_mem _ hm),
      List.map_cons, List.foldl_cons]
    have hobeyed : (r.obeySubscriber command).view delivered =
        (r.note (.subscriberAsked command)).view delivered := by
      cases command with
      | sendRequest => exact view_withWorld _ (streams.sendRequest r.request r.world)
      | receive => exact view_withWorld _ (streams.receive r.world)
      | offer update => exact absurd List.mem_cons_self (hc update)
      | close => exact view_withWorld _ (streams.closeSubscribe r.world)
      | noteRequestSent => exact view_note _ _
    rw [hobeyed, view_note]

/-- The session goes on without an offer. -/
lemma view_moveSubscriber_of_live (streams : StreamsAnswer occur) (r : Relay ω)
    {next : SubscribeSession.Phase × List SubscribeSession.Command} (hl : next.1.isLive = true)
    (hc : ∀ update, .offer update ∉ next.2) :
    (r.moveSubscriber next).view delivered =
      { r.view delivered with
        phase := some next.1
        talk := (next.2.map Note.subscriberAsked).foldl hear (r.view delivered).talk } := by
  rw [moveSubscriber_of_live r hl, view_obeySubscriber streams _ hc]
  rfl

/-- The session ends. -/
lemma view_moveSubscriber_of_ended (streams : StreamsAnswer occur) (r : Relay ω)
    {failure : Failure} {commands : List SubscribeSession.Command}
    (hc : ∀ update, .offer update ∉ commands) :
    (r.moveSubscriber (.ended failure, commands)).view delivered =
      { r.view delivered with
        phase := some (.ended failure)
        talk := (commands.map Note.subscriberAsked).foldl hear (r.view delivered).talk
        ends := (r.view delivered).ends ++ [failure] } := by
  change ((commands.foldl Relay.obeySubscriber { r with subscriber := some (.ended failure) }).post
    [.ended .subscribe failure]).view delivered = _
  rw [view_post, view_obeySubscriber streams _ hc]
  simp [view, Delivery.offered?, Delivery.taken?, Delivery.subscriberEnd?]

/-- The session offers the update that it has received. -/
lemma Sound.offering (streams : StreamsAnswer occur) (h : r.Sound n) {updates : List Update}
    {update : Update} (hv : r.view delivered = {
      phase := some .receiving
      talk := rounds updates ++ [.asked .receive, .answered (.received (.ok (some update)))]
      taken := updates }) :
    (r.moveSubscriber (.offering update, [.offer update])).InRounds n delivered := by
  refine ⟨h.moveSubscriber streams _, ?_⟩
  let asking := ({ r with subscriber := some (.offering update) } : Relay ω).note
    (.subscriberAsked (.offer update))
  have hasking : asking.view delivered = {
      phase := some (.offering update), talk := offer updates update
      taken := updates } := by
    have hview : asking.view delivered = { r.view delivered with
        phase := some (.offering update)
        talk := (r.view delivered).talk ++ [.asked (.offer update)] } := view_note _ _
    rw [hview, hv, offer]
    simp
  have hmoved : r.moveSubscriber (.offering update, [.offer update]) =
      asking.withHandoff (r.handoff.send (.subscriber n) update .session) := by
    rw [← h.number]
    rfl
  rw [hmoved]
  have hs : r.handoff.senders = [] := congrArg View.senders hv
  rcases r.handoff.send_cases (.subscriber n) update .session with
    ⟨reason, he⟩ | ⟨w, rest, first, he⟩ | ⟨nobody, he⟩ <;> rw [he]
  · have ho : [(Party.subscriber n, CallOutcome.cancelled reason)].filterMap
        (fun x => (outcomeDelivery x).offered?) = [.error (.cancelled reason)] := rfl
    have ht : [(Party.subscriber n, CallOutcome.cancelled reason)].filterMap
        (fun x => (outcomeDelivery x).taken?) = [] := rfl
    rw [view_withHandoff asking ho ht, hasking, hs, List.append_nil]
    exact .refused updates update reason
  · have hw : w.call.isSubscriber = false := h.apart.asks w (first ▸ List.mem_cons_self)
    have ho : [(w.call, .received update), (.subscriber n, .sent)].filterMap
        (fun x => (outcomeDelivery x).offered?) = [.ok ()] := by
      simp [Delivery.offered?_sent, Delivery.offered?_received hw]
    have ht : [(w.call, .received update), (.subscriber n, .sent)].filterMap
        (fun x => (outcomeDelivery x).taken?) = [update] := by
      simp [Delivery.taken?_sent, Delivery.taken?_received hw]
    rw [view_withHandoff asking ho ht, hasking, hs]
    exact .handed updates update
  · rw [view_withHandoff asking List.filterMap_nil List.filterMap_nil, hasking, hs, List.append_nil,
      List.append_nil]
    exact .held updates update

/-! ## Replies to the subscribe session -/

/-- A reply that nobody waits for. -/
lemma InRounds.unawaited (h : r.InRounds n delivered) {phase : SubscribeSession.Phase}
    (hp : r.subscriber = some phase) (hl : phase.isLive = true) {reply : SubscribeSession.Reply}
    (ha : (r.view delivered).talk.getLast?.any (·.awaits reply) = false)
    (hr : SubscribeSession.react r.cancelled? phase reply = (phase, [])) :
    (r.answer (.subscriber reply)).InRounds n delivered := by
  have hmoved : r.answer (.subscriber reply) = r.note (.subscriberTold reply) := by
    rw [answer_subscriber_of_live hp hl, hr, moveSubscriber_of_live _ hl, ← hp]
    rfl
  rw [hmoved]
  refine ⟨h.toSound.note _, ?_⟩
  rw [view_note, hear_told_unawaited ha]
  exact h.stage

/-- A reply with which the session goes on. -/
lemma Sound.goOn (streams : StreamsAnswer occur) (h : r.Sound n)
    {phase next : SubscribeSession.Phase} (hl : phase.isLive = true) (hnext : next.isLive = true)
    {going : List Exchange} {taken : List Update}
    (hv : r.view delivered = { phase := some phase, talk := going, taken })
    {reply : SubscribeSession.Reply} (awaited : going.getLast?.any (·.awaits reply) = true)
    {commands : List SubscribeSession.Command} (hc : ∀ update, .offer update ∉ commands)
    (hr : SubscribeSession.react r.cancelled? phase reply = (next, commands))
    (stage : Stage n {
      phase := some next
      talk := (commands.map Note.subscriberAsked).foldl hear (going ++ [.answered reply])
      taken }) : (r.answer (.subscriber reply)).InRounds n delivered := by
  have hp : r.subscriber = some phase := congrArg View.phase hv
  rw [answer_subscriber_of_live hp hl, hr]
  refine ⟨(h.note (.subscriberTold reply)).moveSubscriber streams _, ?_⟩
  rw [view_moveSubscriber_of_live streams _ hnext hc, view_note, hv, hear_told awaited]
  exact stage

/-- A reply with which the session ends. -/
lemma Sound.fail (streams : StreamsAnswer occur) (h : r.Sound n) {phase : SubscribeSession.Phase}
    (hl : phase.isLive = true) {going : List Exchange} {taken : List Update}
    (hv : r.view delivered = { phase := some phase, talk := going, taken })
    (course : ∃ updates, going <+: rounds updates) (kept : Kept going taken)
    {reply : SubscribeSession.Reply} (awaited : going.getLast?.any (·.awaits reply) = true)
    (fails : reply.fails = true) {failure : Failure} (canEnd : CanEnd failure)
    (hr : SubscribeSession.react r.cancelled? phase reply = (.ended failure, [.close])) :
    (r.answer (.subscriber reply)).InRounds n delivered := by
  have hp : r.subscriber = some phase := congrArg View.phase hv
  rw [answer_subscriber_of_live hp hl, hr]
  refine ⟨(h.note (.subscriberTold reply)).moveSubscriber streams _, ?_⟩
  rw [view_moveSubscriber_of_ended streams _ (by simp), view_note, hv, hear_told awaited]
  have hclosed := Stage.closed (n := n) course kept awaited fails canEnd
  simpa [hear] using hclosed

/-- The session hears of its offer. -/
lemma Sound.answer_offered (streams : StreamsAnswer occur) (h : r.Sound n)
    {result : Except Failure Unit} (stage : Stage n { r.view delivered with
      offered := result :: (r.view delivered).offered }) :
    (r.answer (.subscriber (.offered result))).InRounds n delivered := by
  obtain ⟨updates, update, ⟨rfl, hv⟩ | ⟨reason, rfl, hv⟩⟩ := stage.answered
  · have hgoes : SubscribeSession.react r.cancelled? (.offering update) (.offered (.ok ())) =
        (.receiving, [.receive]) := rfl
    apply h.goOn streams rfl rfl hv (by simp [getLast?_offer, Exchange.awaits]) (by simp) hgoes
    have htalk : rounds (updates ++ [update]) ++ [.asked .receive] =
        offer updates update ++ [.answered (.offered (.ok ()))] ++ [.asked .receive] := by
      simp [rounds_snoc, offer, roundOf]
    have hstage := Stage.receiving (n := n) (updates ++ [update])
    rw [htalk] at hstage
    exact hstage
  · exact h.fail streams rfl hv ⟨_, rounds_offer updates update⟩ (kept_offer (Or.inl rfl))
      (by simp [getLast?_offer, Exchange.awaits]) rfl (Or.inr ⟨reason, rfl⟩) rfl

/-- A session that has not started or has ended hears nothing. -/
lemma InRounds.unheard (h : r.InRounds n delivered) (hl : r.isLive .subscribe = false)
    (reply : SubscribeSession.Reply) : (r.answer (.subscriber reply)).InRounds n delivered := by
  rw [answer_subscriber_of_not_live hl]
  exact h

/-- The request has been sent, or not. -/
lemma InRounds.answer_requestSent (streams : StreamsAnswer occur) (h : r.InRounds n delivered)
    (result : Except Failure Unit) :
    (r.answer (.subscriber (.requestSent result))).InRounds n delivered := by
  have stage := h.stage
  generalize hv : r.view delivered = v at stage
  have hp : r.subscriber = v.phase := congrArg View.phase hv
  have hunawaited : v.talk.getLast?.any (·.awaits (.requestSent result)) = false →
      (r.view delivered).talk.getLast?.any (·.awaits (.requestSent result)) = false :=
    fun ha => hv ▸ ha
  cases stage with
  | absent | unopened canEnd | closed course kept awaited fails canEnd =>
    exact h.unheard (by simp [isLive, hp, Phase.isLive]) _
  | requesting =>
    cases result with
    | ok _ => exact h.goOn streams rfl rfl hv rfl (by simp) rfl (.receiving [])
    | error failure =>
      exact h.fail streams rfl hv ⟨[], _, rfl⟩ (Stage.requesting (n := n)).kept rfl rfl
        (canEnd_ofStream _ _) rfl
  | receiving updates =>
    exact h.unawaited hp rfl (hunawaited (by simp [Exchange.awaits])) rfl
  | held updates update | handed updates update | refused updates update reason =>
    exact h.unawaited hp rfl (hunawaited (by simp [getLast?_offer, Exchange.awaits])) rfl

/-- An update has come, or none will. -/
lemma InRounds.answer_received (streams : StreamsAnswer occur) (h : r.InRounds n delivered)
    (result : Except Failure (Option Update)) :
    (r.answer (.subscriber (.received result))).InRounds n delivered := by
  have stage := h.stage
  generalize hv : r.view delivered = v at stage
  have hp : r.subscriber = v.phase := congrArg View.phase hv
  have hunawaited : v.talk.getLast?.any (·.awaits (.received result)) = false →
      (r.view delivered).talk.getLast?.any (·.awaits (.received result)) = false :=
    fun ha => hv ▸ ha
  cases stage with
  | absent | unopened canEnd | closed course kept awaited fails canEnd =>
    exact h.unheard (by simp [isLive, hp, Phase.isLive]) _
  | requesting => exact h.unawaited hp rfl (hunawaited rfl) rfl
  | receiving updates =>
    have hlast : ∀ result, (rounds updates ++ [Exchange.asked .receive]).getLast?.any
        (·.awaits (.received result)) = true := by
      simp [Exchange.awaits]
    have hcourse : ∃ updates', rounds updates ++ [.asked .receive] <+: rounds updates' :=
      ⟨_, rounds_receiving updates⟩
    rcases result with failure | _ | update
    · exact h.fail streams rfl hv hcourse (kept_receiving updates) (hlast _) rfl
        (canEnd_ofStream _ _) rfl
    · exact h.fail streams rfl hv hcourse (kept_receiving updates) (hlast _) rfl
        (Or.inl ⟨_, rfl⟩) rfl
    · rw [answer_subscriber_of_live hp rfl]
      have hview : (r.note (.subscriberTold (.received (.ok (some update))))).view delivered = {
          phase := some .receiving
          talk := rounds updates ++ [.asked .receive, .answered (.received (.ok (some update)))]
          taken := updates } := by
        rw [view_note, hv, hear_told (hlast _)]
        simp
      exact (h.toSound.note _).offering streams hview
  | held updates update | handed updates update | refused updates update reason =>
    exact h.unawaited hp rfl (hunawaited (by simp [getLast?_offer, Exchange.awaits])) rfl

/-- A reply to the subscribe session that was underway. -/
lemma Sound.answer_subscriber (streams : StreamsAnswer occur) (h : r.Sound n) {m : Nat}
    {reply : SubscribeSession.Reply} (stage : Stage n { r.view delivered with
      offered := (Delivery.answer m (.subscriber reply)).offered?.toList ++
        (r.view delivered).offered }) :
    (r.answer (.subscriber reply)).InRounds n delivered := by
  cases reply with
  | requestSent result => exact InRounds.answer_requestSent streams ⟨h, stage⟩ result
  | received result => exact InRounds.answer_received streams ⟨h, stage⟩ result
  | offered result => exact h.answer_offered streams stage

lemma InRounds.answer_publisher (streams : StreamsAnswer occur) (h : r.InRounds n delivered)
    (reply : PublishSession.Reply) : (r.answer (.publisher reply)).InRounds n delivered := by
  cases hl : r.isLive .publish with
  | false =>
    rw [answer_publisher_of_not_live hl]
    exact h
  | true =>
    obtain ⟨phase, hp, hlive⟩ := exists_of_isLive_publish hl
    rw [answer_publisher_of_live hp hlive]
    exact InRounds.movePublisher streams (h.note fun _ => rfl) _

/-! ## Starts and deliveries -/

/-- The session has tried to open its stream. -/
lemma Sound.opened (streams : StreamsAnswer occur) (h : r.Sound n)
    (hv : r.view delivered = { phase := none }) (result : Except Failure Unit) (world : ω) :
    (({ r with world }.noteOpening .subscribe result).moveSubscriber
      (SubscribeSession.opened result)).InRounds n delivered := by
  have hw : ({ r with world } : Relay ω).Sound n := ⟨h.number, h.apart, h.late⟩
  have hwv : ({ r with world } : Relay ω).view delivered = { phase := none } := hv
  cases result with
  | error failure =>
    refine ⟨hw.moveSubscriber streams _, ?_⟩
    change Stage n (view delivered (Relay.moveSubscriber { r with world } (.ended (.stream _), [])))
    rw [view_moveSubscriber_of_ended streams _ (by simp), hwv]
    exact .unopened (Or.inl ⟨_, rfl⟩)
  | ok _ =>
    refine ⟨(hw.note (.opened .subscribe)).moveSubscriber streams _, ?_⟩
    change Stage n (view delivered
      (Relay.moveSubscriber (Relay.note { r with world } (.opened .subscribe))
        (.requesting, [.sendRequest])))
    rw [view_moveSubscriber_of_live streams _ rfl (by simp), view_note, hwv]
    exact .requesting

lemma InRounds.startSubscriber (streams : StreamsAnswer occur) (h : r.InRounds n delivered)
    (hnone : r.subscriber = none) : r.startSubscriber.InRounds n delivered := by
  have stage := h.stage
  generalize hv : r.view delivered = v at stage
  have hp : v.phase = none := (congrArg View.phase hv).symm.trans hnone
  cases stage with
  | absent =>
    unfold Relay.startSubscriber
    split
    · next reason _ =>
      refine ⟨h.toSound.moveSubscriber streams _, ?_⟩
      change Stage n (view delivered (Relay.moveSubscriber _ (.ended (.cancelled reason), [])))
      rw [view_moveSubscriber_of_ended streams _ (by simp), hv]
      exact .unopened (Or.inr ⟨reason, rfl⟩)
    · exact h.toSound.opened streams hv _ _
  | _ => cases hp

/-- What is underway longest is delivered. -/
theorem InRounds.deliver (streams : StreamsAnswer occur) (h : r.InRounds n delivered)
    {d : Delivery} {ds : List Delivery} (hu : r.underway = d :: ds) :
    ({ r with underway := ds }.deliver d).InRounds n (delivered ++ [d]) := by
  have hlate : ∀ m a, .answer m (.later a) ∈ ds → a.isOfStream = true := by
    intro m a hm
    apply h.late m a
    rw [hu]
    exact List.mem_cons_of_mem _ hm
  have hsound : ({ r with underway := ds } : Relay ω).Sound n := ⟨h.number, h.apart, hlate⟩
  have stage := h.stage
  rw [view_underway r hu] at stage
  cases d with
  | answer m a => cases a with
    | subscriber reply => exact hsound.answer_subscriber streams stage
    | publisher reply => exact InRounds.answer_publisher streams ⟨hsound, stage⟩ reply
    | later a =>
      have ha : a.isOfStream = true := by
        apply h.late m a
        rw [hu]
        exact List.mem_cons_self
      have hr : ({ r with underway := ds } : Relay ω).InRounds n
          (delivered ++ [.answer m (.later a)]) := ⟨hsound, stage⟩
      have hs : ∀ b ∈ ([a], r.world).1, b.isOfStream = true := by simpa using ha
      exact hr.withWorld hs
  | guest number outcome =>
    have hr : ({ r with underway := ds } : Relay ω).InRounds n
        (delivered ++ [.guest number outcome]) := ⟨hsound, stage⟩
    exact hr.note fun _ => rfl
  | ended side failure =>
    have hr : ({ r with underway := ds } : Relay ω).InRounds n
        (delivered ++ [.ended side failure]) := ⟨hsound, stage⟩
    exact hr.note fun _ => rfl

end

end Relay

/-! ## Runs -/

/-- What can happen to a relay. A session is started, a delivery is made, something happens at the
endpoints; the scope of the sessions is cancelled; a guest asks for an update with one of the
signals, or one of the guests' signals is aborted. -/
inductive RelayEvent (ε : Type) where
  | start (side : Side)
  | turn
  | endpoint (event : ε)
  | cancel (reason : Failure)
  | ask (guest : Nat) (signal : Scope)
  | dismiss (signal : Nat) (reason : Failure)

/-- A relay, and the deliveries that have been made in it. -/
structure WatchedRelay (ω : Type) where
  relay : Relay ω
  delivered : List Delivery := []

namespace WatchedRelay

variable {ω ε : Type} [Endpoints ω]

def step (occur : ε → ω → Option (List Answer × ω)) (w : WatchedRelay ω) :
    RelayEvent ε → WatchedRelay ω
  | .start .subscribe =>
    if w.relay.subscriber.isNone then { w with relay := w.relay.startSubscriber } else w
  | .start .publish =>
    if w.relay.publisher.isNone then { w with relay := w.relay.startPublisher } else w
  | .turn =>
    match w.relay.underway with
    | [] => w
    | d :: ds => ⟨{ w.relay with underway := ds }.deliver d, w.delivered ++ [d]⟩
  | .endpoint event => { w with relay := (w.relay.occur? (occur event)).getD w.relay }
  | .cancel reason => { w with relay := w.relay.cancel reason }
  | .ask guest signal => { w with relay := w.relay.guestReceive guest signal }
  | .dismiss signal reason => { w with relay := w.relay.guestAbort signal reason }

/-- What a fresh relay and its deliveries come to. -/
def after (occur : ε → ω → Option (List Answer × ω)) (fresh : Relay ω)
    (events : List (RelayEvent ε)) : WatchedRelay ω :=
  events.foldl (step occur) { relay := fresh }

/-- The updates that have been taken from the hand-off. -/
def taken (w : WatchedRelay ω) : List Update :=
  (w.delivered ++ w.relay.underway).filterMap Delivery.taken?

/-- How the subscribe session is said to have ended. -/
def ends (w : WatchedRelay ω) : List Failure :=
  (w.delivered ++ w.relay.underway).filterMap Delivery.subscriberEnd?

variable {occur : ε → ω → Option (List Answer × ω)} {n : Nat} {w : WatchedRelay ω}

/-- Every event keeps the subscribe session in its rounds. -/
theorem inRounds_step (streams : StreamsAnswer occur) (h : w.relay.InRounds n w.delivered)
    (event : RelayEvent ε) :
    (w.step occur event).relay.InRounds n (w.step occur event).delivered := by
  cases event with
  | start side => cases side with
    | subscribe =>
      simp only [step]
      split
      · next hnone => exact h.startSubscriber streams (Option.isNone_iff_eq_none.mp hnone)
      · exact h
    | publish =>
      simp only [step]
      split
      · exact h.startPublisher streams
      · exact h
  | turn =>
    simp only [step]
    split
    · exact h
    · next d ds hu => exact h.deliver streams hu
  | endpoint event =>
    cases he : occur event w.relay.world with
    | none => simpa [step, Relay.occur?, he] using h
    | some result =>
      simpa [step, Relay.occur?, he] using h.withWorld (streams.occur event _ _ he)
  | cancel reason => exact h.cancel streams reason
  | ask guest signal => exact h.receive rfl signal
  | dismiss signal reason => exact h.abort (.guest signal) reason

theorem inRounds_after (streams : StreamsAnswer occur) {fresh : Relay ω}
    (h : fresh.InRounds n []) (events : List (RelayEvent ε)) :
    (after occur fresh events).relay.InRounds n (after occur fresh events).delivered := by
  induction events using List.reverseRecOn with
  | nil => exact h
  | append_singleton events event ih =>
    rw [after, List.foldl_append]
    exact inRounds_step streams ih event

/-- For all streams, consumers and signals: what a session says is part of its rounds, until an
answer ends it and it closes its stream, which it does once if the stream was opened. The updates that
have been taken are those it was given, in order, up to at most the last one, and no offer counts as
fulfilled whose update was not taken. The session ends only by a failure, and that once. -/
theorem session_keeps_to_rounds (streams : StreamsAnswer occur) (number : Nat) (world : ω)
    (request : SubscribeRequest) (metadata : Option Login) (events : List (RelayEvent ε)) :
    let w := after occur { number, world, request, metadata } events
    let talk := conversation w.relay.history
    let ended := w.relay.failure? .subscribe
    (∃ updates going, going <+: rounds updates ∧
      ((talk = going ∧ (ended = none ∨ going = [])) ∨
        ∃ reply, ended.isSome = true ∧ reply.fails = true ∧
          going.getLast?.any (·.awaits reply) = true ∧
          talk = going ++ [.answered reply, .asked .close])) ∧
    talk.countP (·.isClose) = (if talk.any (·.isOpened) && ended.isSome then 1 else 0) ∧
    w.taken <+: returned talk ∧ (returned talk).length ≤ w.taken.length + 1 ∧
    talk.countP (·.isFulfilled) ≤ w.taken.length ∧
    w.ends = ended.toList ∧ ∀ failure ∈ w.ends, CanEnd failure := by
  have hfresh : ({ number, world, request, metadata } : Relay ω).InRounds number [] :=
    ⟨⟨rfl, ⟨by simp, rfl⟩, by simp⟩, .absent⟩
  have stage := (inRounds_after streams hfresh events).stage
  obtain ⟨order, held, fulfilled⟩ := stage.kept
  exact ⟨stage.course, stage.closing, order, held, fulfilled, stage.ends⟩

/-- A guest takes the first of two updates, and the second is offered when the scope is cancelled. -/
theorem second_update_is_dropped :
    let w := after Scripted.occur
      { world := { script := { autoRequest := true } }, request := ⟨"", []⟩, metadata := none }
      [.start .subscribe, .turn, .endpoint (.arrive [.update [1], .update [2]]), .turn,
        .ask 0 (.guest 0), .turn, .turn, .turn, .cancel (.error "stop"), .turn]
    w.taken = [[1]] ∧ returned (conversation w.relay.history) = [[1], [2]] ∧
      (conversation w.relay.history).countP (·.isClose) = 1 := by
  intro w
  have closing := (session_keeps_to_rounds Scripted.streamsAnswer 0
    { script := { autoRequest := true } } ⟨"", []⟩ none
    [.start .subscribe, .turn, .endpoint (.arrive [.update [1], .update [2]]), .turn,
      .ask 0 (.guest 0), .turn, .turn, .turn, .cancel (.error "stop"), .turn]).2.1
  exact ⟨rfl, rfl, closing⟩

end WatchedRelay

end TelemetryBridge
