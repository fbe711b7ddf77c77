import TelemetryBridge.Proofs.Backpressure
import TelemetryBridge.Proofs.PublisherView

/-!
# Forwarded offers

Whatever the streams do, whenever guests offer updates and signals are aborted, a publish session
keeps to its rounds. It sends the updates of the offers that are fulfilled, in order and one at a
time, says of each that it has been forwarded when it was sent, and closes its stream when it ends.
-/

namespace TelemetryBridge

open PublishSession

namespace Relay

section

variable {ω ε : Type} [Endpoints ω] {occur : ε → ω → Option (List Answer × ω)} {n : Nat}
variable {offers : List Update} {delivered : List Delivery} {r : Relay ω}

/-! ## The publish session moves -/

omit [Endpoints ω] in
lemma Supplied.withPhase (h : r.Supplied n offers delivered)
    (phase : Option PublishSession.Phase) :
    ({ r with publisher := phase } : Relay ω).Supplied n offers delivered :=
  ⟨h.number, h.alone, h.queue, h.order, h.late⟩

/-- Commands other than to take an update. -/
lemma Supplied.obeyPublisher (streams : StreamsAnswer occur) (h : r.Supplied n offers delivered)
    {commands : List PublishSession.Command} (hc : .take ∉ commands) :
    (commands.foldl Relay.obeyPublisher r).Supplied n offers delivered := by
  induction commands generalizing r with
  | nil => exact h
  | cons command commands ih =>
    refine ih ?_ fun hm => hc (List.mem_cons_of_mem _ hm)
    have hn := h.note (.publisherAsked command)
    cases command with
    | take => exact absurd List.mem_cons_self hc
    | send update => exact hn.withWorld (streams.sendUpdate update r.world)
    | forwarded update => exact ⟨hn.number, hn.alone, hn.queue, hn.order, hn.late⟩
    | close => exact hn.withWorld (streams.closePublish r.world)
    | noteOpened => exact hn.note _

/-- What is seen of such commands is that they were given. -/
lemma publishView_obeyPublisher (streams : StreamsAnswer occur) (r : Relay ω)
    {commands : List PublishSession.Command} (hc : .take ∉ commands) :
    (commands.foldl Relay.obeyPublisher r).publishView offers delivered =
      { r.publishView offers delivered with
        talk := (commands.map Note.publisherAsked).foldl hear
          (r.publishView offers delivered).talk } := by
  induction commands generalizing r with
  | nil => rfl
  | cons command commands ih =>
    rw [List.foldl_cons, ih _ fun hm => hc (List.mem_cons_of_mem _ hm), List.map_cons,
      List.foldl_cons]
    have hobeyed : (r.obeyPublisher command).publishView offers delivered =
        (r.note (.publisherAsked command)).publishView offers delivered := by
      cases command with
      | take => exact absurd List.mem_cons_self hc
      | send update => exact publishView_withWorld _ (streams.sendUpdate update r.world)
      | forwarded update => rfl
      | close => exact publishView_withWorld _ (streams.closePublish r.world)
      | noteOpened => exact publishView_note _ _
    rw [hobeyed, publishView_note]

/-- The session goes on without taking an update. -/
lemma Supplied.move (streams : StreamsAnswer occur) (h : r.Supplied n offers delivered)
    {next : PublishSession.Phase × List PublishSession.Command} (hl : next.1.isLive = true)
    (hc : .take ∉ next.2)
    (stage : Stage n { r.publishView offers delivered with
      phase := some next.1
      talk := (next.2.map Note.publisherAsked).foldl hear
        (r.publishView offers delivered).talk }) :
    (r.movePublisher next).PublishesInRounds n offers delivered := by
  rw [movePublisher_of_live r hl]
  refine ⟨(h.withPhase _).obeyPublisher streams hc, ?_⟩
  rw [publishView_obeyPublisher streams _ hc]
  exact stage

lemma Supplied.finish (streams : StreamsAnswer occur) (h : r.Supplied n offers delivered)
    {failure : Failure} {commands : List PublishSession.Command} (hc : .take ∉ commands)
    (stage : Stage n { r.publishView offers delivered with
      phase := some (.ended failure)
      talk := (commands.map Note.publisherAsked).foldl hear (r.publishView offers delivered).talk
      ends := (r.publishView offers delivered).ends ++ [failure] }) :
    (r.movePublisher (.ended failure, commands)).PublishesInRounds n offers delivered := by
  refine ⟨((h.withPhase _).obeyPublisher streams hc).post rfl (by simp), ?_⟩
  change Stage n (((commands.foldl Relay.obeyPublisher
    { r with publisher := some (.ended failure) }).post
      [.ended .publish failure]).publishView offers delivered)
  have ht : [Delivery.ended .publish failure].filterMap Delivery.handed? = [] := rfl
  have hf : [Delivery.ended .publish failure].filterMap Delivery.fulfilled? = [] := rfl
  have he : [Delivery.ended .publish failure].filterMap Delivery.publisherEnd? = [failure] := rfl
  rw [publishView_post, publishView_obeyPublisher streams _ hc, ht, hf, he, List.filterMap_nil,
    List.append_nil, List.append_nil]
  exact stage

/-- The session asks for an update. -/
lemma Supplied.ask (h : r.Supplied n offers delivered) {updates : List Update}
    (hv : r.publishView offers delivered = {
      phase := some .taking, talk := rounds updates, given := updates }) :
    (r.obeyPublisher .take).PublishesInRounds n offers delivered := by
  let asking := r.note (.publisherAsked .take)
  have hasking : asking.publishView offers delivered = {
      phase := some .taking, talk := rounds updates ++ [.asked .take], given := updates } := by
    rw [publishView_note, hv]
    rfl
  have hfree : r.handoff.receivers = [] := congrArg View.receivers hv
  have hasked : r.obeyPublisher .take =
      asking.withHandoff (r.handoff.receive (.publisher n) .session) := by
    rw [← h.number]
    rfl
  rw [hasked]
  refine ⟨(h.note _).served (h.queue.receive hfree) h.queue.places_receive, ?_⟩
  rcases r.handoff.receive_cases (.publisher n) .session with
    ⟨reason, he⟩ | ⟨w, rest, first, he⟩ | ⟨nobody, he⟩ <;> rw [he]
  · have ht : [(Party.publisher n, CallOutcome.cancelled reason)].filterMap
        (fun x => (outcomeDelivery x).handed?) = [.error (.cancelled reason)] := rfl
    have hf : [(Party.publisher n, CallOutcome.cancelled reason)].filterMap
        (fun x => (outcomeDelivery x).fulfilled?) = [] := rfl
    rw [publishView_withHandoff asking ht hf, hasking, hfree, List.filterMap_nil, List.append_nil]
    exact .refused updates reason
  · obtain ⟨place, hcall, hvalue⟩ := h.queue.senders w (first ▸ List.mem_cons_self)
    have ht : [(w.call, .sent), (.publisher n, .received w.value)].filterMap
        (fun x => (outcomeDelivery x).handed?) = [.ok w.value] := by
      rw [hcall]
      rfl
    have hf : [(w.call, .sent), (.publisher n, .received w.value)].filterMap
        (fun x => (outcomeDelivery x).fulfilled?) = [place] := by
      rw [hcall]
      rfl
    rw [publishView_withHandoff asking ht hf, hasking, hfree,
      List.filterMap_cons_some hvalue]
    exact .handed updates w.value
  · rw [publishView_withHandoff asking List.filterMap_nil List.filterMap_nil, hasking, hfree,
      List.filterMap_nil, List.append_nil, List.append_nil]
    exact .waiting updates

/-- The session asks for the next update, after another command. -/
lemma Supplied.askNext (streams : StreamsAnswer occur) (h : r.Supplied n offers delivered)
    {phase : Option PublishSession.Phase} {talk : List Exchange} {updates : List Update}
    (hv : r.publishView offers delivered = { phase, talk, given := updates })
    {command : PublishSession.Command} (hc : command ≠ .take)
    (htalk : hear talk (.publisherAsked command) = rounds updates) :
    (r.movePublisher (.taking, [command, .take])).PublishesInRounds n offers delivered := by
  have hpv : ({ r with publisher := some .taking } : Relay ω).publishView offers delivered =
      { r.publishView offers delivered with phase := some .taking } := rfl
  have hc' : .take ∉ [command] := fun hm => hc (List.mem_singleton.mp hm).symm
  rw [movePublisher_of_live r rfl]
  apply ((h.withPhase _).obeyPublisher streams hc').ask
  rw [publishView_obeyPublisher streams _ hc', hpv, hv, ← htalk]
  rfl

/-! ## Replies to the publish session -/

/-- A reply that nobody waits for. -/
lemma PublishesInRounds.unawaited (h : r.PublishesInRounds n offers delivered)
    {phase : PublishSession.Phase} (hp : r.publisher = some phase) (hl : phase.isLive = true)
    {reply : PublishSession.Reply}
    (ha : (r.publishView offers delivered).talk.getLast?.any (·.awaits reply) = false)
    (hr : PublishSession.react r.cancelled? phase reply = (phase, [])) :
    (r.answer (.publisher reply)).PublishesInRounds n offers delivered := by
  have hmoved : r.answer (.publisher reply) = r.note (.publisherTold reply) := by
    rw [answer_publisher_of_live hp hl, hr, movePublisher_of_live _ hl, ← hp]
    rfl
  rw [hmoved]
  refine ⟨h.toSupplied.note _, ?_⟩
  rw [publishView_note, hear_told_unawaited ha]
  exact h.stage

/-- A session that has not started or has ended hears nothing. -/
lemma PublishesInRounds.unheard (h : r.PublishesInRounds n offers delivered)
    (hl : r.isLive .publish = false) (reply : PublishSession.Reply) :
    (r.answer (.publisher reply)).PublishesInRounds n offers delivered := by
  rw [answer_publisher_of_not_live hl]
  exact h

/-- A reply with which the session ends. -/
lemma Supplied.fail (streams : StreamsAnswer occur) (h : r.Supplied n offers delivered)
    {phase : PublishSession.Phase} (hl : phase.isLive = true) {going : List Exchange}
    {given : List Update}
    (hv : r.publishView offers delivered = { phase := some phase, talk := going, given })
    (course : ∃ updates, going <+: rounds updates) (kept : Kept going given)
    (all : sentIn going = given) {reply : PublishSession.Reply}
    (awaited : going.getLast?.any (·.awaits reply) = true) (fails : reply.fails = true)
    {failure : Failure} (canEnd : SubscribeSession.CanEnd failure)
    (hr : PublishSession.react r.cancelled? phase reply = (.ended failure, [.close])) :
    (r.answer (.publisher reply)).PublishesInRounds n offers delivered := by
  have hp : r.publisher = some phase := congrArg View.phase hv
  rw [answer_publisher_of_live hp hl, hr]
  apply (h.note (.publisherTold reply)).finish streams (by simp)
  rw [publishView_note, hv, hear_told awaited]
  have hclosed := Stage.closed (n := n) course kept all awaited fails canEnd
  simpa [hear] using hclosed

/-- The session hears of its call at the hand-off. -/
lemma Supplied.answer_taken (streams : StreamsAnswer occur) (h : r.Supplied n offers delivered)
    {result : Except Failure Update} (stage : Stage n { r.publishView offers delivered with
      taken := result :: (r.publishView offers delivered).taken }) :
    (r.answer (.publisher (.taken result))).PublishesInRounds n offers delivered := by
  obtain ⟨updates, ⟨update, rfl, hv⟩ | ⟨reason, rfl, hv⟩⟩ := stage.answered
  · have hp : r.publisher = some .taking := congrArg View.phase hv
    rw [answer_publisher_of_live hp rfl]
    apply (h.note (.publisherTold (.taken (.ok update)))).move streams rfl (by simp [react])
    rw [publishView_note, hv, hear_told (by simp [Exchange.awaits])]
    have hsending := Stage.sending (n := n) updates update
    simpa [sending, react, hear] using hsending
  · exact h.fail streams rfl hv ⟨_, rounds_taking updates⟩ (kept_taking (Or.inl rfl))
      (sentIn_taking updates) (by simp [Exchange.awaits]) rfl (Or.inr ⟨reason, rfl⟩) rfl

/-- The update has been sent, or not. -/
lemma PublishesInRounds.answer_sent (streams : StreamsAnswer occur)
    (h : r.PublishesInRounds n offers delivered) (result : Except Failure Unit) :
    (r.answer (.publisher (.sent result))).PublishesInRounds n offers delivered := by
  have stage := h.stage
  generalize hv : r.publishView offers delivered = v at stage
  have hp : r.publisher = v.phase := congrArg View.phase hv
  cases stage with
  | absent | unopened canEnd | closed course kept all awaited fails canEnd =>
    exact h.unheard (by simp [isLive, hp, Phase.isLive]) _
  | waiting updates | handed updates update | refused updates reason =>
    exact h.unawaited hp rfl (by simp [hv, Exchange.awaits]) rfl
  | sending updates update =>
    have awaited : ∀ result, (sending updates update).getLast?.any (·.awaits (.sent result)) =
        true := by
      simp [getLast?_sending, Exchange.awaits]
    cases result with
    | ok _ =>
      have hview : (r.note (.publisherTold (.sent (.ok ())))).publishView offers delivered = {
          phase := some (.sending update)
          talk := sending updates update ++ [.answered (.sent (.ok ()))]
          given := updates ++ [update] } := by
        rw [publishView_note, hv, hear_told (awaited _)]
      have htalk : hear (sending updates update ++ [.answered (.sent (.ok ()))])
          (.publisherAsked (.forwarded update)) = rounds (updates ++ [update]) := by
        simp [hear, sending, rounds_snoc, roundOf]
      rw [answer_publisher_of_live hp rfl]
      exact (h.toSupplied.note _).askNext streams hview (by simp) htalk
    | error failure =>
      exact h.fail streams rfl hv ⟨_, rounds_sending updates update⟩ (kept_sending updates update)
        (sentIn_sending updates update) (awaited _) rfl
        (SubscribeSession.canEnd_ofStream _ _) rfl

/-- A reply to the publish session that was underway. -/
lemma Supplied.answer_publisher (streams : StreamsAnswer occur)
    (h : r.Supplied n offers delivered) {m : Nat} {reply : PublishSession.Reply}
    (stage : Stage n { r.publishView offers delivered with
      taken := (Delivery.answer m (.publisher reply)).handed?.toList ++
        (r.publishView offers delivered).taken }) :
    (r.answer (.publisher reply)).PublishesInRounds n offers delivered := by
  cases reply with
  | taken result => exact h.answer_taken streams stage
  | sent result => exact PublishesInRounds.answer_sent streams ⟨h, stage⟩ result

/-! ## Starts and deliveries -/

/-- The session has tried to open its stream. -/
lemma Supplied.opened (streams : StreamsAnswer occur) (h : r.Supplied n offers delivered)
    (hv : r.publishView offers delivered = { phase := none }) (result : Except Failure Unit)
    (world : ω) :
    (({ r with world }.noteOpening .publish result).movePublisher
      (PublishSession.opened result)).PublishesInRounds n offers delivered := by
  have hw : ({ r with world } : Relay ω).Supplied n offers delivered :=
    ⟨h.number, h.alone, h.queue, h.order, h.late⟩
  have hwv : ({ r with world } : Relay ω).publishView offers delivered = { phase := none } := hv
  cases result with
  | error failure =>
    apply hw.finish streams List.not_mem_nil
    rw [hwv]
    exact .unopened (Or.inl ⟨_, rfl⟩)
  | ok _ =>
    have hview : (Relay.note { r with world } (.opened .publish)).publishView offers delivered = {
        phase := none, talk := [.opened] } := by
      rw [publishView_note, hwv]
      rfl
    exact (hw.note (.opened .publish)).askNext streams hview (by simp) rfl

lemma PublishesInRounds.startPublisher (streams : StreamsAnswer occur)
    (h : r.PublishesInRounds n offers delivered) (hnone : r.publisher = none) :
    r.startPublisher.PublishesInRounds n offers delivered := by
  have stage := h.stage
  generalize hv : r.publishView offers delivered = v at stage
  have hp : v.phase = none := (congrArg View.phase hv).symm.trans hnone
  cases stage with
  | absent =>
    unfold Relay.startPublisher
    split
    · next reason _ =>
      apply h.toSupplied.finish streams List.not_mem_nil
      rw [hv]
      exact .unopened (Or.inr ⟨reason, rfl⟩)
    · exact h.toSupplied.opened streams hv _ _
  | _ => cases hp

lemma PublishesInRounds.cancel (streams : StreamsAnswer occur)
    (h : r.PublishesInRounds n offers delivered) (reason : Failure) :
    (r.cancel reason).PublishesInRounds n offers delivered := by
  unfold Relay.cancel
  split
  · exact h
  · exact (h.withWorld (streams.cancel r.world)).abort .session reason

/-- What is underway longest is delivered. -/
theorem PublishesInRounds.deliver (streams : StreamsAnswer occur)
    (h : r.PublishesInRounds n offers delivered) {d : Delivery} {ds : List Delivery}
    (hu : r.underway = d :: ds) :
    ({ r with underway := ds }.deliver d).PublishesInRounds n offers (delivered ++ [d]) := by
  have hsupplied := h.toSupplied.underway hu
  have stage := h.stage
  rw [publishView_underway r hu] at stage
  cases d with
  | answer m a => cases a with
    | publisher reply => exact hsupplied.answer_publisher streams stage
    | subscriber reply =>
      have hdead : ({ r with underway := ds } : Relay ω).isLive .subscribe = false := by
        simp [isLive, h.alone]
      change (Relay.answer { r with underway := ds } (.subscriber reply)).PublishesInRounds _ _ _
      rw [answer_subscriber_of_not_live hdead]
      exact ⟨hsupplied, stage⟩
    | later a =>
      have ha : a.isOfStream = true := h.late m a (hu ▸ List.mem_cons_self)
      have hr : ({ r with underway := ds } : Relay ω).PublishesInRounds n offers
          (delivered ++ [.answer m (.later a)]) := ⟨hsupplied, stage⟩
      have hs : ∀ b ∈ ([a], r.world).1, b.isOfStream = true := by simpa using ha
      exact hr.withWorld hs
  | guest number outcome =>
    have hr : ({ r with underway := ds } : Relay ω).PublishesInRounds n offers
        (delivered ++ [.guest number outcome]) := ⟨hsupplied, stage⟩
    exact hr.note fun _ => rfl
  | ended side failure =>
    have hr : ({ r with underway := ds } : Relay ω).PublishesInRounds n offers
        (delivered ++ [.ended side failure]) := ⟨hsupplied, stage⟩
    exact hr.note fun _ => rfl

end

end Relay

/-! ## Runs -/

/-- What can happen to a relay without a subscribe session. Its publish session is started, a
delivery is made, something happens at the endpoints; the scope of the session is cancelled; a guest
offers an update with one of the signals, or one of the guests' signals is aborted. -/
inductive OfferEvent (ε : Type) where
  | start
  | turn
  | endpoint (event : ε)
  | cancel (reason : Failure)
  | offer (update : Update) (signal : Scope)
  | dismiss (signal : Nat) (reason : Failure)

/-- A relay, the deliveries that have been made in it, and the updates that guests have offered. -/
structure OfferedRelay (ω : Type) extends WatchedRelay ω where
  offers : List Update := []

namespace OfferedRelay

variable {ω ε : Type} [Endpoints ω]

/-- A guest offers one update. Its number is the place of the offer. -/
def step (occur : ε → ω → Option (List Answer × ω)) (w : OfferedRelay ω) :
    OfferEvent ε → OfferedRelay ω
  | .start => { w with toWatchedRelay := w.toWatchedRelay.step occur (.start .publish) }
  | .turn => { w with toWatchedRelay := w.toWatchedRelay.step occur .turn }
  | .endpoint event => { w with toWatchedRelay := w.toWatchedRelay.step occur (.endpoint event) }
  | .cancel reason => { w with toWatchedRelay := w.toWatchedRelay.step occur (.cancel reason) }
  | .offer update signal =>
    { w with
      relay := w.relay.guestSend w.offers.length update signal
      offers := w.offers ++ [update] }
  | .dismiss signal reason =>
    { w with toWatchedRelay := w.toWatchedRelay.step occur (.dismiss signal reason) }

/-- What a fresh relay and its deliveries come to. -/
def after (occur : ε → ω → Option (List Answer × ω)) (fresh : Relay ω)
    (events : List (OfferEvent ε)) : OfferedRelay ω :=
  events.foldl (step occur) { relay := fresh }

/-- The places of the offers that have been fulfilled. -/
def fulfilled (w : OfferedRelay ω) : List Nat := w.relay.fulfilled w.delivered

/-- The updates of the offers that have been fulfilled. -/
def given (w : OfferedRelay ω) : List Update := w.fulfilled.filterMap (w.offers[·]?)

/-- How the publish session is said to have ended. -/
def ends (w : OfferedRelay ω) : List Failure :=
  (w.delivered ++ w.relay.underway).filterMap Delivery.publisherEnd?

variable {occur : ε → ω → Option (List Answer × ω)} {n : Nat} {w : OfferedRelay ω}

/-- Every event keeps the publish session in its rounds. -/
theorem inRounds_step (streams : StreamsAnswer occur)
    (h : w.relay.PublishesInRounds n w.offers w.delivered) (event : OfferEvent ε) :
    (w.step occur event).relay.PublishesInRounds n (w.step occur event).offers
      (w.step occur event).delivered := by
  cases event with
  | start =>
    simp only [step, WatchedRelay.step]
    split
    · next hnone => exact h.startPublisher streams (Option.isNone_iff_eq_none.mp hnone)
    · exact h
  | turn =>
    simp only [step, WatchedRelay.step]
    split
    · exact h
    · next d ds hu => exact h.deliver streams hu
  | endpoint event =>
    cases he : occur event w.relay.world with
    | none => simpa [step, WatchedRelay.step, Relay.occur?, he] using h
    | some result =>
      simpa [step, WatchedRelay.step, Relay.occur?, he] using
        h.withWorld (streams.occur event _ _ he)
  | cancel reason => exact h.cancel streams reason
  | offer update signal => exact h.offer update signal
  | dismiss signal reason => exact h.abort (.guest signal) reason

theorem inRounds_after (streams : StreamsAnswer occur) {fresh : Relay ω}
    (h : fresh.PublishesInRounds n [] []) (events : List (OfferEvent ε)) :
    (after occur fresh events).relay.PublishesInRounds n (after occur fresh events).offers
      (after occur fresh events).delivered := by
  induction events using List.reverseRecOn with
  | nil => exact h
  | append_singleton events event ih =>
    rw [after, List.foldl_append]
    exact inRounds_step streams ih event

/-- For all streams, offers and signals: what a session says is part of its rounds, until an answer
ends it and it closes its stream, which it does once if the stream was opened. Offers are fulfilled
in the order in which they were made, and the session has sent their updates in that order, all of
them when it has ended. It says of each update that was sent that it has been forwarded, once and in
order, and of no other, so at most the last one that was given is not forwarded. At most one send is
pending. The session ends only by a failure, and that once. -/
theorem fulfilled_offers_are_forwarded (streams : StreamsAnswer occur) (number : Nat) (world : ω)
    (request : SubscribeRequest) (metadata : Option Login) (events : List (OfferEvent ε)) :
    let w := after occur { number, world, request, metadata } events
    let talk := conversation w.relay.history
    let ended := w.relay.failure? .publish
    (∃ updates going, going <+: rounds updates ∧
      ((talk = going ∧ (ended = none ∨ going = [])) ∨
        ∃ reply, ended.isSome = true ∧ reply.fails = true ∧
          going.getLast?.any (·.awaits reply) = true ∧
          talk = going ++ [.answered reply, .asked .close])) ∧
    talk.countP (·.isClose) = (if talk.any (·.isOpened) && ended.isSome then 1 else 0) ∧
    w.fulfilled.Pairwise (· < ·) ∧ (∀ place ∈ w.fulfilled, place < w.offers.length) ∧
    sentIn talk <+: w.given ∧ (ended.isSome = true → sentIn talk = w.given) ∧
    forwardedIn talk <+: sentIn talk ∧ w.given.length ≤ (forwardedIn talk).length + 1 ∧
    talk.countP (·.isSuccess) = (forwardedIn talk).length ∧
    (sentIn talk).length ≤ talk.countP (·.isWritten) + 1 ∧
    w.ends = ended.toList ∧ ∀ failure ∈ w.ends, SubscribeSession.CanEnd failure := by
  have hfresh :
      ({ number, world, request, metadata } : Relay ω).PublishesInRounds number [] [] := by
    refine ⟨⟨rfl, rfl, ⟨⟨rfl, ?_⟩, Or.inl rfl, ?_, List.nodup_nil, Or.inl rfl⟩, ?_, ?_⟩, .absent⟩
    · simp [Handoff.waiting]
    · simp
    · exact List.pairwise_singleton _ _
    · simp
  have h := inRounds_after streams hfresh events
  obtain ⟨order, held, forwarded, succeeded, pending⟩ := h.stage.kept
  have hplaces := (List.pairwise_append.mp (List.pairwise_append.mp h.order).1).1
  exact ⟨h.stage.course, h.stage.closing, hplaces,
    fun place hm => h.lt_length (List.mem_append_left _ hm), order, h.stage.all, forwarded, held,
    succeeded, pending, h.stage.ends⟩

/-- Two of three offers are fulfilled. The update of the second is refused by the collector after
the scope has been cancelled. -/
theorem refused_update_is_not_forwarded :
    let w := after Scripted.occur
      { world := { script := { ignorePublish := true } }, request := ⟨"", []⟩, metadata := none }
      [.start, .offer [1] (.guest 0), .turn, .turn, .offer [2] (.guest 0), .offer [3] (.guest 1),
        .endpoint .sendOk, .turn, .turn, .turn, .cancel (.error "stop"),
        .endpoint (.sendError "refused"), .turn, .turn]
    w.given = [[1], [2]] ∧ sentIn (conversation w.relay.history) = w.given ∧
      forwardedIn (conversation w.relay.history) = [[1]] := by
  intro w
  have hended : (w.relay.failure? .publish).isSome = true := rfl
  have hsent := (fulfilled_offers_are_forwarded Scripted.streamsAnswer 0
    { script := { ignorePublish := true } } ⟨"", []⟩ none
    [.start, .offer [1] (.guest 0), .turn, .turn, .offer [2] (.guest 0), .offer [3] (.guest 1),
      .endpoint .sendOk, .turn, .turn, .turn, .cancel (.error "stop"),
      .endpoint (.sendError "refused"), .turn, .turn]).2.2.2.2.2.1 hended
  exact ⟨rfl, hsent, rfl⟩

end OfferedRelay

end TelemetryBridge
