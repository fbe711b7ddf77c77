import TelemetryBridge.Proofs.HandoffHistory
import TelemetryBridge.Proofs.StreamAnswers

/-!
# Replies of the hand-off

Over any streams, a session that calls the hand-off waits there or has its reply underway, and it is
refused only when its scope is cancelled. Late answers of an earlier attempt change nothing in this.
-/

namespace TelemetryBridge

/-- The answer that is delivered to a session. -/
def Delivery.answer? : Delivery → Option Answer
  | answer _ a => some a
  | _ => none

/-- The session that has ended according to a delivery, and its failure. -/
def Delivery.ending? : Delivery → Option (Side × Failure)
  | ended side failure => some (side, failure)
  | _ => none

/-- How many calls at the hand-off a session in this phase has made that have not been answered. -/
def SubscribeSession.Phase.offers : SubscribeSession.Phase → Nat
  | offering _ => 1
  | _ => 0

/-- How many calls at the hand-off a session in this phase has made that have not been answered. -/
def PublishSession.Phase.takes : PublishSession.Phase → Nat
  | taking => 1
  | _ => 0

def SubscribeSession.Command.isOffer : SubscribeSession.Command → Bool
  | offer _ => true
  | _ => false

def PublishSession.Command.isTake : PublishSession.Command → Bool
  | take => true
  | _ => false

namespace Relay

variable {ω ε : Type}

/-- The answers underway to the sessions. -/
def answers (r : Relay ω) : List Answer := r.underway.filterMap Delivery.answer?

/-- The hand-off has so many calls for updates on either side that wait or whose reply is underway,
and it has refused only in a cancelled scope. -/
structure Calling (offers takes : Nat) (r : Relay ω) : Prop where
  channel : ∃ c : Channel, r.handoff = c.handoff r.number
  offers : r.answers.countP Answer.isOffered + r.handoff.senders.length = offers
  takes : r.answers.countP Answer.isTaken + r.handoff.receivers.length = takes
  refused : ∀ a ∈ r.answers, a.isRefusal = true → r.isCancelled = true

/-- How many offers the subscribe session has made that have not been answered. -/
def offering (r : Relay ω) : Nat := r.subscriber.elim 0 (·.offers)

/-- How many updates the publish session waits for. -/
def taking (r : Relay ω) : Nat := r.publisher.elim 0 (·.takes)

/-- The calls at the hand-off are those that the sessions wait for. -/
def Matched (r : Relay ω) : Prop := r.Calling r.offering r.taking

@[simp] lemma answers_post (r : Relay ω) (ds : List Delivery) :
    (r.post ds).answers = r.answers ++ ds.filterMap Delivery.answer? :=
  List.filterMap_append

@[simp] lemma answers_withWorld (r : Relay ω) (result : List Answer × ω) :
    (r.withWorld result).answers = r.answers ++ result.1 := by
  rw [withWorld, answers_post, List.filterMap_map]
  exact congrArg (r.answers ++ ·) List.filterMap_some

@[simp] lemma answers_withHandoff (r : Relay ω)
    (result : Handoff Party Scope Update × List (Party × CallOutcome Update)) :
    (r.withHandoff result).answers =
      r.answers ++ (result.2.map outcomeDelivery).filterMap Delivery.answer? :=
  answers_post _ _

lemma countP_cons_toNat {α : Type} (p : α → Bool) (a : α) (l : List α) :
    (a :: l).countP p = (p a).toNat + l.countP p := by
  cases h : p a <;> simp [h, Nat.add_comm]

section

variable {r r' : Relay ω} {offers takes : Nat}

lemma Calling.congr (h : r.Calling offers takes) (hn : r'.number = r.number)
    (hh : r'.handoff = r.handoff) (ha : r'.answers = r.answers) : r'.Calling offers takes := by
  refine ⟨by rw [hh, hn]; exact h.channel, by rw [ha, hh]; exact h.offers,
    by rw [ha, hh]; exact h.takes, ?_⟩
  have hc : r'.isCancelled = r.isCancelled := by rw [isCancelled, isCancelled, cancelled?, hh]; rfl
  rw [ha, hc]
  exact h.refused

/-- Answers of the streams do not touch the hand-off. -/
lemma Calling.withWorld (h : r.Calling offers takes) {result : List Answer × ω}
    (hs : ∀ a ∈ result.1, a.isOfStream = true) : (r.withWorld result).Calling offers takes := by
  have ho : result.1.countP Answer.isOffered = 0 :=
    List.countP_eq_zero.mpr fun a ha => by simp [(Answer.isOfStream_iff.mp (hs a ha)).1]
  have ht : result.1.countP Answer.isTaken = 0 :=
    List.countP_eq_zero.mpr fun a ha => by simp [(Answer.isOfStream_iff.mp (hs a ha)).2]
  refine ⟨h.channel, ?_, ?_, fun a ha hr => ?_⟩
  · rw [answers_withWorld, List.countP_append, ho]
    exact h.offers
  · rw [answers_withWorld, List.countP_append, ht]
    exact h.takes
  · rw [answers_withWorld] at ha
    rcases List.mem_append.mp ha with ha | ha
    · exact h.refused a ha hr
    · rw [Answer.isRefusal_of_isOfStream (hs a ha)] at hr
      cases hr

/-- A call at the hand-off that leaves it in a state of the channel. -/
lemma Calling.withHandoff (h : r.Calling offers takes) {c : Channel} {offers' takes' : Nat}
    {result : Handoff Party Scope Update × List (Party × CallOutcome Update)} {new : List Answer}
    (hc : result.1 = c.handoff r.number)
    (hnew : (result.2.map outcomeDelivery).filterMap Delivery.answer? = new)
    (ho : new.countP Answer.isOffered + (c.handoff r.number).senders.length + offers =
      r.handoff.senders.length + offers')
    (ht : new.countP Answer.isTaken + (c.handoff r.number).receivers.length + takes =
      r.handoff.receivers.length + takes')
    (hm : r.isCancelled = true → ((c.handoff r.number).reason? .session).isSome = true)
    (hr : ∀ a ∈ new, a.isRefusal = true → ((c.handoff r.number).reason? .session).isSome = true) :
    (r.withHandoff result).Calling offers' takes' := by
  have hcancelled : (r.withHandoff result).isCancelled =
      ((c.handoff r.number).reason? .session).isSome := by
    rw [← hc]
    rfl
  have hoffers := h.offers
  have htakes := h.takes
  refine ⟨⟨c, hc⟩, ?_, ?_, fun a ha hra => ?_⟩
  · change _ + result.1.senders.length = _
    rw [answers_withHandoff, List.countP_append, hnew, hc]
    omega
  · change _ + result.1.receivers.length = _
    rw [answers_withHandoff, List.countP_append, hnew, hc]
    omega
  · rw [answers_withHandoff, hnew] at ha
    rw [hcancelled]
    rcases List.mem_append.mp ha with ha | ha
    · exact hm (h.refused a ha hra)
    · exact hr a ha hra

lemma isCancelled_of_handoff {c : Channel} (hc : r.handoff = c.handoff r.number) :
    r.isCancelled = ((c.handoff r.number).reason? .session).isSome := by
  rw [isCancelled, cancelled?, hc]

/-- A send is answered at once or waits. -/
lemma Calling.send (h : r.Calling 0 takes) (update : Update) :
    (r.withHandoff (r.handoff.send (.subscriber r.number) update .session)).Calling 1 takes := by
  obtain ⟨c, hc⟩ := h.channel
  have hcancelled := isCancelled_of_handoff hc
  have hoffers := h.offers
  rw [hc]
  cases c with
  | idle =>
    rw [Channel.send_idle]
    refine h.withHandoff (c := .offering update) rfl rfl ?_ ?_ ?_ ?_ <;>
      simp [hc, hcancelled, Channel.handoff, Handoff.reason?]
  | offering old => simp [hc, Channel.handoff] at hoffers
  | asking =>
    rw [Channel.send_asking]
    refine h.withHandoff (c := .idle) rfl rfl ?_ ?_ ?_ ?_ <;>
      simp [hc, hcancelled, Channel.handoff, Handoff.reason?, outcomeDelivery, Delivery.answer?,
        List.countP_cons, Answer.isOffered, Answer.isTaken, Answer.isRefusal]
  | closed reason =>
    rw [Channel.send_closed]
    refine h.withHandoff (c := .closed reason) rfl rfl ?_ ?_ ?_ ?_ <;>
      simp [hc, Channel.handoff, Handoff.reason?, outcomeDelivery, Delivery.answer?,
        Answer.isOffered, Answer.isTaken]

/-- A receive is answered at once or waits. -/
lemma Calling.receive (h : r.Calling offers 0) :
    (r.withHandoff (r.handoff.receive (.publisher r.number) .session)).Calling offers 1 := by
  obtain ⟨c, hc⟩ := h.channel
  have hcancelled := isCancelled_of_handoff hc
  have htakes := h.takes
  rw [hc]
  cases c with
  | idle =>
    rw [Channel.receive_idle]
    refine h.withHandoff (c := .asking) rfl rfl ?_ ?_ ?_ ?_ <;>
      simp [hc, hcancelled, Channel.handoff, Handoff.reason?]
  | offering update =>
    rw [Channel.receive_offering]
    refine h.withHandoff (c := .idle) rfl rfl ?_ ?_ ?_ ?_ <;>
      simp [hc, hcancelled, Channel.handoff, Handoff.reason?, outcomeDelivery, Delivery.answer?,
        List.countP_cons, Answer.isOffered, Answer.isTaken, Answer.isRefusal]
  | asking => simp [hc, Channel.handoff] at htakes
  | closed reason =>
    rw [Channel.receive_closed]
    refine h.withHandoff (c := .closed reason) rfl rfl ?_ ?_ ?_ ?_ <;>
      simp [hc, Channel.handoff, Handoff.reason?, outcomeDelivery, Delivery.answer?,
        Answer.isOffered, Answer.isTaken]

/-- The abort of the scope answers the call that waits. -/
lemma Calling.abort (h : r.Calling offers takes) (hfresh : r.cancelled? = none) (reason : Failure) :
    (r.withHandoff (r.handoff.abort .session reason)).Calling offers takes ∧
      (r.withHandoff (r.handoff.abort .session reason)).isCancelled = true := by
  obtain ⟨c, hc⟩ := h.channel
  have hnone : (c.handoff r.number).reason? .session = none := by
    rw [← hc]
    exact hfresh
  rw [hc, Channel.abort_handoff _ _ hnone]
  refine ⟨?_, rfl⟩
  refine h.withHandoff (c := .closed reason) rfl rfl ?_ ?_ (fun _ => rfl) (fun _ _ _ => rfl) <;>
    cases c <;> simp [hc, Channel.handoff, Channel.waiting, outcomeDelivery, Delivery.answer?,
      Answer.isOffered, Answer.isTaken]

end

/-- The ends of sessions that are underway as news, in order. -/
def tidings (r : Relay ω) : List (Side × Failure) := r.underway.filterMap Delivery.ending?

@[simp] lemma tidings_post (r : Relay ω) (ds : List Delivery) :
    (r.post ds).tidings = r.tidings ++ ds.filterMap Delivery.ending? :=
  List.filterMap_append

/-- Between the two relays no session has moved, no end has become news and no scope was cancelled.
-/
structure Steady (r r' : Relay ω) : Prop where
  subscriber : r'.subscriber = r.subscriber
  publisher : r'.publisher = r.publisher
  tidings : r'.tidings = r.tidings
  aborted : r'.handoff.aborted = r.handoff.aborted

lemma Steady.refl (r : Relay ω) : r.Steady r := ⟨rfl, rfl, rfl, rfl⟩

lemma Steady.trans {r r' r'' : Relay ω} (h : r.Steady r') (h' : r'.Steady r'') : r.Steady r'' :=
  ⟨h'.subscriber.trans h.subscriber, h'.publisher.trans h.publisher, h'.tidings.trans h.tidings,
    h'.aborted.trans h.aborted⟩

lemma ending?_outcomeDelivery (result : Party × CallOutcome Update) :
    (outcomeDelivery result).ending? = none := by
  obtain ⟨party, outcome⟩ := result
  cases party <;> cases outcome <;> rfl

lemma filterMap_ending?_outcomeDelivery (results : List (Party × CallOutcome Update)) :
    (results.map outcomeDelivery).filterMap Delivery.ending? = [] := by
  rw [List.filterMap_map]
  exact List.filterMap_eq_nil_iff.mpr fun x _ => ending?_outcomeDelivery x

lemma steady_note (r : Relay ω) (n : Note) : r.Steady (r.note n) := ⟨rfl, rfl, rfl, rfl⟩

lemma steady_withWorld (r : Relay ω) (result : List Answer × ω) : r.Steady (r.withWorld result) := by
  refine ⟨rfl, rfl, ?_, rfl⟩
  have hnone : (result.1.map (Delivery.answer r.number)).filterMap Delivery.ending? = [] := by
    rw [List.filterMap_map]
    exact List.filterMap_eq_nil_iff.mpr fun _ _ => rfl
  rw [withWorld, tidings_post, hnone, List.append_nil]
  rfl

lemma tidings_withHandoff (r : Relay ω)
    (result : Handoff Party Scope Update × List (Party × CallOutcome Update)) :
    (r.withHandoff result).tidings = r.tidings := by
  rw [withHandoff, tidings_post, filterMap_ending?_outcomeDelivery, List.append_nil]
  rfl

lemma steady_withHandoff (r : Relay ω)
    {result : Handoff Party Scope Update × List (Party × CallOutcome Update)}
    (h : result.1.aborted = r.handoff.aborted) : r.Steady (r.withHandoff result) :=
  ⟨rfl, rfl, r.tidings_withHandoff result, h⟩

section

variable [Endpoints ω] {occur : ε → ω → Option (List Answer × ω)} {r : Relay ω}
  {offers takes : Nat}

/-- Cancellation answers the calls that wait, and leaves the scope cancelled. -/
lemma Calling.cancel (streams : StreamsAnswer occur) (h : r.Calling offers takes)
    (reason : Failure) :
    (r.cancel reason).Calling offers takes ∧ (r.cancel reason).isCancelled = true := by
  unfold Relay.cancel
  split
  · next old hold => exact ⟨h, Option.isSome_of_eq_some hold⟩
  · next hnone =>
    exact (h.withWorld (streams.cancel r.world)).abort hnone reason

omit [Endpoints ω] in
lemma offering_of_not_live (h : r.isLive .subscribe = false) : r.offering = 0 := by
  rcases hs : r.subscriber with _ | phase
  · simp [offering, hs]
  · rw [isLive_subscribe hs] at h
    cases phase with
    | ended failure => simp [offering, hs, SubscribeSession.Phase.offers]
    | requesting | receiving | offering update => cases h

omit [Endpoints ω] in
lemma taking_of_not_live (h : r.isLive .publish = false) : r.taking = 0 := by
  rcases hp : r.publisher with _ | phase
  · simp [taking, hp]
  · rw [isLive_publish hp] at h
    cases phase with
    | ended failure => simp [taking, hp, PublishSession.Phase.takes]
    | taking | sending update => cases h

/-! ## Commands -/

lemma steady_carryOutSubscriber (r : Relay ω) (command : SubscribeSession.Command) :
    r.Steady (r.carryOutSubscriber command) := by
  cases command with
  | sendRequest | receive | close => exact steady_withWorld r _
  | offer update =>
    refine steady_withHandoff r ?_
    rcases r.handoff.send_cases (.subscriber r.number) update .session with
      ⟨reason, h⟩ | ⟨w, rest, -, h⟩ | ⟨-, h⟩ <;> rw [h]
  | noteRequestSent => exact steady_note r _

lemma steady_carryOutPublisher (r : Relay ω) (command : PublishSession.Command) :
    r.Steady (r.carryOutPublisher command) := by
  cases command with
  | send update | close => exact steady_withWorld r _
  | take =>
    refine steady_withHandoff r ?_
    rcases r.handoff.receive_cases (.publisher r.number) .session with
      ⟨reason, h⟩ | ⟨w, rest, -, h⟩ | ⟨-, h⟩ <;> rw [h]
  | forwarded update => exact ⟨rfl, rfl, rfl, rfl⟩
  | noteOpened => exact steady_note r _

lemma steady_obeySubscriber (r : Relay ω) (commands : List SubscribeSession.Command) :
    r.Steady (commands.foldl obeySubscriber r) := by
  induction commands generalizing r with
  | nil => exact .refl r
  | cons command commands ih =>
    exact ((steady_note r _).trans (steady_carryOutSubscriber _ command)).trans (ih _)

lemma steady_obeyPublisher (r : Relay ω) (commands : List PublishSession.Command) :
    r.Steady (commands.foldl obeyPublisher r) := by
  induction commands generalizing r with
  | nil => exact .refl r
  | cons command commands ih =>
    exact ((steady_note r _).trans (steady_carryOutPublisher _ command)).trans (ih _)

lemma moveSubscriber_phases (r : Relay ω)
    (next : SubscribeSession.Phase × List SubscribeSession.Command) :
    (r.moveSubscriber next).subscriber = some next.1 ∧
      (r.moveSubscriber next).publisher = r.publisher := by
  have h := steady_obeySubscriber { r with subscriber := some next.1 } next.2
  unfold moveSubscriber
  dsimp only
  split <;> exact ⟨h.subscriber, h.publisher⟩

lemma movePublisher_phases (r : Relay ω)
    (next : PublishSession.Phase × List PublishSession.Command) :
    (r.movePublisher next).subscriber = r.subscriber ∧
      (r.movePublisher next).publisher = some next.1 := by
  have h := steady_obeyPublisher { r with publisher := some next.1 } next.2
  unfold movePublisher
  dsimp only
  split <;> exact ⟨h.subscriber, h.publisher⟩

lemma Calling.carryOutSubscriber (streams : StreamsAnswer occur) (h : r.Calling offers takes)
    (command : SubscribeSession.Command) (hone : offers + command.isOffer.toNat ≤ 1) :
    (r.carryOutSubscriber command).Calling (offers + command.isOffer.toNat) takes := by
  cases command with
  | sendRequest => exact h.withWorld (streams.sendRequest r.request r.world)
  | receive => exact h.withWorld (streams.receive r.world)
  | offer update =>
    obtain rfl : offers = 0 := by simpa [SubscribeSession.Command.isOffer] using hone
    exact h.send update
  | close => exact h.withWorld (streams.closeSubscribe r.world)
  | noteRequestSent => exact h.congr rfl rfl rfl

lemma Calling.carryOutPublisher (streams : StreamsAnswer occur) (h : r.Calling offers takes)
    (command : PublishSession.Command) (hone : takes + command.isTake.toNat ≤ 1) :
    (r.carryOutPublisher command).Calling offers (takes + command.isTake.toNat) := by
  cases command with
  | take =>
    obtain rfl : takes = 0 := by simpa [PublishSession.Command.isTake] using hone
    exact h.receive
  | send update => exact h.withWorld (streams.sendUpdate update r.world)
  | forwarded update => exact h.congr rfl rfl rfl
  | close => exact h.withWorld (streams.closePublish r.world)
  | noteOpened => exact h.congr rfl rfl rfl

lemma Calling.obeySubscriber (streams : StreamsAnswer occur) (h : r.Calling offers takes)
    (commands : List SubscribeSession.Command)
    (hone : offers + commands.countP SubscribeSession.Command.isOffer ≤ 1) :
    (commands.foldl Relay.obeySubscriber r).Calling
      (offers + commands.countP SubscribeSession.Command.isOffer) takes := by
  induction commands generalizing r offers with
  | nil => exact h
  | cons command commands ih =>
    have hcount : offers + (command :: commands).countP SubscribeSession.Command.isOffer =
        offers + command.isOffer.toNat + commands.countP SubscribeSession.Command.isOffer := by
      rw [countP_cons_toNat, Nat.add_assoc]
    rw [hcount] at hone ⊢
    have hnoted : (r.note (.subscriberAsked command)).Calling offers takes := h.congr rfl rfl rfl
    exact ih (hnoted.carryOutSubscriber streams command (by omega)) hone

lemma Calling.obeyPublisher (streams : StreamsAnswer occur) (h : r.Calling offers takes)
    (commands : List PublishSession.Command)
    (hone : takes + commands.countP PublishSession.Command.isTake ≤ 1) :
    (commands.foldl Relay.obeyPublisher r).Calling offers
      (takes + commands.countP PublishSession.Command.isTake) := by
  induction commands generalizing r takes with
  | nil => exact h
  | cons command commands ih =>
    have hcount : takes + (command :: commands).countP PublishSession.Command.isTake =
        takes + command.isTake.toNat + commands.countP PublishSession.Command.isTake := by
      rw [countP_cons_toNat, Nat.add_assoc]
    rw [hcount] at hone ⊢
    have hnoted : (r.note (.publisherAsked command)).Calling offers takes := h.congr rfl rfl rfl
    exact ih (hnoted.carryOutPublisher streams command (by omega)) hone

omit [Endpoints ω] in
/-- News of the end of a session is no answer. -/
lemma Calling.post_ended (h : r.Calling offers takes) (side : Side) (failure : Failure) :
    (r.post [.ended side failure]).Calling offers takes :=
  h.congr rfl rfl (by simp [Delivery.answer?])

/-- A session moves on, and calls the hand-off if it asks for that. -/
lemma Calling.moveSubscriber (streams : StreamsAnswer occur) (h : r.Calling offers takes)
    (next : SubscribeSession.Phase × List SubscribeSession.Command)
    (hone : offers + next.2.countP SubscribeSession.Command.isOffer = next.1.offers) :
    (r.moveSubscriber next).Calling next.1.offers takes := by
  have hle : next.1.offers ≤ 1 := by cases next.1 <;> simp [SubscribeSession.Phase.offers]
  have hset : ({ r with subscriber := some next.1 } : Relay ω).Calling offers takes :=
    h.congr rfl rfl rfl
  have hobey := hset.obeySubscriber streams next.2 (hone ▸ hle)
  rw [hone] at hobey
  unfold Relay.moveSubscriber
  dsimp only
  split
  · exact hobey.post_ended _ _
  · exact hobey

lemma Calling.movePublisher (streams : StreamsAnswer occur) (h : r.Calling offers takes)
    (next : PublishSession.Phase × List PublishSession.Command)
    (hone : takes + next.2.countP PublishSession.Command.isTake = next.1.takes) :
    (r.movePublisher next).Calling offers next.1.takes := by
  have hle : next.1.takes ≤ 1 := by cases next.1 <;> simp [PublishSession.Phase.takes]
  have hset : ({ r with publisher := some next.1 } : Relay ω).Calling offers takes :=
    h.congr rfl rfl rfl
  have hobey := hset.obeyPublisher streams next.2 (hone ▸ hle)
  rw [hone] at hobey
  unfold Relay.movePublisher
  dsimp only
  split
  · exact hobey.post_ended _ _
  · exact hobey

omit [Endpoints ω] in
/-- A reaction ends the offer that the reply answers, and starts those it asks for. -/
lemma offers_react (aborted : Option Failure) {phase : SubscribeSession.Phase}
    {reply : SubscribeSession.Reply}
    (hp : (Answer.subscriber reply).isOffered.toNat ≤ phase.offers) :
    (SubscribeSession.react aborted phase reply).1.offers +
        (Answer.subscriber reply).isOffered.toNat =
      phase.offers +
        (SubscribeSession.react aborted phase reply).2.countP SubscribeSession.Command.isOffer := by
  rcases reply with result | result | result
  · cases phase <;> rcases result with failure | _ <;> rfl
  · cases phase <;> rcases result with failure | _ | update <;> rfl
  · cases phase with
    | offering update => rcases result with failure | _ <;> rfl
    | requesting | receiving | ended failure => exact absurd hp (Nat.not_succ_le_zero 0)

omit [Endpoints ω] in
lemma takes_react (aborted : Option Failure) {phase : PublishSession.Phase}
    {reply : PublishSession.Reply} (hp : (Answer.publisher reply).isTaken.toNat ≤ phase.takes) :
    (PublishSession.react aborted phase reply).1.takes + (Answer.publisher reply).isTaken.toNat =
      phase.takes +
        (PublishSession.react aborted phase reply).2.countP PublishSession.Command.isTake := by
  rcases reply with result | result
  · cases phase with
    | taking => rcases result with failure | update <;> rfl
    | sending update | ended failure => exact absurd hp (Nat.not_succ_le_zero 0)
  · cases phase <;> rcases result with failure | _ <;> rfl

/-- An answer that was underway reaches the live subscribe session. -/
lemma Calling.answer_subscriber (streams : StreamsAnswer occur) {reply : SubscribeSession.Reply}
    (h : r.Calling offers r.taking) (hl : r.isLive .subscribe = true)
    (ho : offers + (Answer.subscriber reply).isOffered.toNat = r.offering) :
    (r.answer (.subscriber reply)).Matched := by
  obtain ⟨phase, hs, hl⟩ := exists_of_isLive_subscribe hl
  have hoffering : r.offering = phase.offers := by simp [offering, hs]
  rw [hoffering] at ho
  have hanswered : (Answer.subscriber reply).isOffered.toNat ≤ phase.offers := by omega
  have hreact := offers_react r.cancelled? hanswered
  have hnoted : (r.note (.subscriberTold reply)).Calling offers r.taking := h.congr rfl rfl rfl
  rw [answer_subscriber_of_live hs hl]
  have hmove := hnoted.moveSubscriber streams (SubscribeSession.react r.cancelled? phase reply)
    (by omega)
  obtain ⟨hs', hp'⟩ := moveSubscriber_phases (r.note (.subscriberTold reply))
    (SubscribeSession.react r.cancelled? phase reply)
  unfold Matched
  rw [offering, taking, hs', hp']
  exact hmove

lemma Calling.answer_publisher (streams : StreamsAnswer occur) {reply : PublishSession.Reply}
    (h : r.Calling r.offering takes) (hl : r.isLive .publish = true)
    (ht : takes + (Answer.publisher reply).isTaken.toNat = r.taking) :
    (r.answer (.publisher reply)).Matched := by
  obtain ⟨phase, hp, hl⟩ := exists_of_isLive_publish hl
  have htaking : r.taking = phase.takes := by simp [taking, hp]
  rw [htaking] at ht
  have hanswered : (Answer.publisher reply).isTaken.toNat ≤ phase.takes := by omega
  have hreact := takes_react r.cancelled? hanswered
  have hnoted : (r.note (.publisherTold reply)).Calling r.offering takes := h.congr rfl rfl rfl
  rw [answer_publisher_of_live hp hl]
  have hmove := hnoted.movePublisher streams (PublishSession.react r.cancelled? phase reply)
    (by omega)
  obtain ⟨hs', hp'⟩ := movePublisher_phases (r.note (.publisherTold reply))
    (PublishSession.react r.cancelled? phase reply)
  unfold Matched
  rw [offering, taking, hs', hp']
  exact hmove

/-- An answer that was underway is underway once more. -/
lemma Calling.answer_later {a : Answer} (h : r.Calling offers takes)
    (ho : offers + a.isOffered.toNat = r.offering) (ht : takes + a.isTaken.toNat = r.taking)
    (hr : a.isRefusal = true → r.isCancelled = true) : (r.answer (.later a)).Matched := by
  have hnew : (r.answer (.later a)).answers = r.answers ++ [a] := answers_post _ _
  have hoffers := h.offers
  have htakes := h.takes
  refine ⟨h.channel, ?_, ?_, fun a' ha' hra => ?_⟩
  · change _ + r.handoff.senders.length = r.offering
    rw [hnew, List.countP_append, countP_cons_toNat, List.countP_nil, ← ho]
    omega
  · change _ + r.handoff.receivers.length = r.taking
    rw [hnew, List.countP_append, countP_cons_toNat, List.countP_nil, ← ht]
    omega
  · rw [hnew] at ha'
    rcases List.mem_append.mp ha' with ha' | ha'
    · exact h.refused a' ha' hra
    · rw [List.mem_singleton.mp ha'] at hra
      exact hr hra

/-- An answer that was underway reaches its session. -/
lemma Calling.answer (streams : StreamsAnswer occur) (h : r.Calling offers takes) {a : Answer}
    (ho : offers + a.isOffered.toNat = r.offering) (ht : takes + a.isTaken.toNat = r.taking)
    (hr : a.isRefusal = true → r.isCancelled = true) : (r.answer a).Matched := by
  cases a with
  | subscriber reply =>
    obtain rfl : takes = r.taking := ht
    rcases hl : r.isLive .subscribe
    · rw [answer_subscriber_of_not_live hl]
      have hz : r.offering = 0 := offering_of_not_live hl
      obtain rfl : offers = r.offering := by omega
      exact h
    · exact h.answer_subscriber streams hl ho
  | publisher reply =>
    obtain rfl : offers = r.offering := ho
    rcases hl : r.isLive .publish
    · rw [answer_publisher_of_not_live hl]
      have hz : r.taking = 0 := taking_of_not_live hl
      obtain rfl : takes = r.taking := by omega
      exact h
    · exact h.answer_publisher streams hl ht
  | later a => exact h.answer_later ho ht hr

/-- The relay in which the first of the deliveries underway is made. -/
lemma Matched.deliver (streams : StreamsAnswer occur) (h : r.Matched) {n : Nat} {a : Answer}
    {rest : List Delivery} (first : r.underway = .answer n a :: rest) :
    ({ r with underway := rest }.answer a).Matched := by
  have hanswers : r.answers = a :: ({ r with underway := rest } : Relay ω).answers := by
    rw [answers, first]
    rfl
  have hoffers := h.offers
  have htakes := h.takes
  have hrefused := h.refused
  rw [hanswers] at hoffers htakes hrefused
  rw [countP_cons_toNat] at hoffers htakes
  have hcall : ({ r with underway := rest } : Relay ω).Calling
      (({ r with underway := rest } : Relay ω).answers.countP Answer.isOffered +
        r.handoff.senders.length)
      (({ r with underway := rest } : Relay ω).answers.countP Answer.isTaken +
        r.handoff.receivers.length) :=
    ⟨h.channel, rfl, rfl, fun a' ha' => hrefused a' (List.mem_cons_of_mem _ ha')⟩
  refine hcall.answer streams ?_ ?_ (hrefused a List.mem_cons_self)
  · change _ = r.offering
    omega
  · change _ = r.taking
    omega

/-! ## Starts -/

omit [Endpoints ω] in
lemma Calling.noteOpening (h : r.Calling offers takes) (side : Side) (result : Except Failure Unit) :
    (r.noteOpening side result).Calling offers takes := by
  rcases result with failure | _
  · exact h
  · exact h.congr rfl rfl rfl

lemma Calling.startSubscriber (streams : StreamsAnswer occur) (h : r.Calling 0 takes) :
    r.startSubscriber.Calling r.startSubscriber.offering takes ∧
      r.startSubscriber.publisher = r.publisher := by
  have hmove {r' : Relay ω} (h' : r'.Calling 0 takes)
      (next : SubscribeSession.Phase × List SubscribeSession.Command)
      (hone : 0 + next.2.countP SubscribeSession.Command.isOffer = next.1.offers) :
      (r'.moveSubscriber next).Calling (r'.moveSubscriber next).offering takes ∧
        (r'.moveSubscriber next).publisher = r'.publisher := by
    obtain ⟨hs, hp⟩ := moveSubscriber_phases r' next
    rw [offering, hs]
    exact ⟨h'.moveSubscriber streams next hone, hp⟩
  unfold Relay.startSubscriber
  split
  · exact hmove h (_, []) rfl
  · dsimp only
    have hopen : ({ r with world := (Endpoints.openSubscribe r.metadata r.world).2 } :
        Relay ω).Calling 0 takes := h.congr rfl rfl rfl
    rcases (Endpoints.openSubscribe r.metadata r.world).1 with failure | _
    · exact hmove (hopen.noteOpening .subscribe (.error failure)) _ rfl
    · exact hmove (hopen.noteOpening .subscribe (.ok ())) _ rfl

lemma Calling.startPublisher (streams : StreamsAnswer occur) (h : r.Calling r.offering 0) :
    r.startPublisher.Matched := by
  have hmove {r' : Relay ω} (h' : r'.Calling r'.offering 0)
      (next : PublishSession.Phase × List PublishSession.Command)
      (hone : 0 + next.2.countP PublishSession.Command.isTake = next.1.takes) :
      (r'.movePublisher next).Matched := by
    obtain ⟨hs, hp⟩ := movePublisher_phases r' next
    rw [Matched, offering, taking, hs, hp]
    exact h'.movePublisher streams next hone
  unfold Relay.startPublisher
  split
  · exact hmove h (_, []) rfl
  · dsimp only
    have hopen : ({ r with world := (Endpoints.openPublish r.world).2 } :
        Relay ω).Calling r.offering 0 := h.congr rfl rfl rfl
    rcases (Endpoints.openPublish r.world).1 with failure | _
    · exact hmove (hopen.noteOpening .publish (.error failure)) _ rfl
    · exact hmove (hopen.noteOpening .publish (.ok ())) _ rfl

omit [Endpoints ω] in
/-- When both sessions have ended no reply of the hand-off is underway. -/
lemma Matched.fresh (h : r.Matched) (hl : ∀ side, r.isLive side = false) :
    r.fresh.Calling 0 0 := by
  have hoffers := h.offers
  have htakes := h.takes
  rw [offering_of_not_live (hl .subscribe)] at hoffers
  rw [taking_of_not_live (hl .publish)] at htakes
  have ho : r.answers.countP Answer.isOffered = 0 := (Nat.add_eq_zero_iff.mp hoffers).1
  have ht : r.answers.countP Answer.isTaken = 0 := (Nat.add_eq_zero_iff.mp htakes).1
  refine ⟨⟨.idle, rfl⟩, ho, ht, fun a ha hra => ?_⟩
  have hstream : a.isOfStream = true := Answer.isOfStream_iff.mpr
    ⟨by simpa using List.countP_eq_zero.mp ho a ha, by simpa using List.countP_eq_zero.mp ht a ha⟩
  rw [Answer.isRefusal_of_isOfStream hstream] at hra
  cases hra

/-- Both sessions start in a fresh scope. -/
lemma Matched.startPair (streams : StreamsAnswer occur) (h : r.Matched)
    (hl : ∀ side, r.isLive side = false) (status : BridgeStatus) :
    (r.startPair status).Matched := by
  have hfresh : (r.fresh.note (.opening .subscribe 2 status)).Calling 0 0 :=
    (h.fresh hl).congr rfl rfl rfl
  obtain ⟨hs, -⟩ := hfresh.startSubscriber streams
  refine Calling.startPublisher streams ?_
  exact hs.congr rfl rfl rfl

lemma Matched.cancel (streams : StreamsAnswer occur) (h : r.Matched) (reason : Failure) :
    (r.cancel reason).Matched := by
  have hp : (r.cancel reason).subscriber = r.subscriber ∧
      (r.cancel reason).publisher = r.publisher := by
    unfold Relay.cancel
    split <;> exact ⟨rfl, rfl⟩
  rw [Matched, offering, taking, hp.1, hp.2]
  exact (Calling.cancel streams h reason).1

end

end Relay

namespace Bridge

variable {ω ε : Type} [Endpoints ω] {occur : ε → ω → Option (List Answer × ω)}

/-- After every event the calls at the hand-off are those that the sessions wait for. -/
theorem matched_step (streams : StreamsAnswer occur) {b : Bridge ω} (hb : b.Lifecycle)
    (h : b.relay.Matched) (e : BridgeEvent ε) : (b.step occur e).relay.Matched := by
  have free (hf : b.run = none ∨ b.pause.isSome = true) (side : Side) :
      b.relay.isLive side = false := by
    have hu := hb.unfinished_eq_zero (hb.active_eq_zero hf) side
    exact Bool.toNat_eq_zero.mp (Nat.add_eq_zero_iff.mp hu).1
  have hstart {r : Relay ω} (hr : r.Matched) (hl : ∀ side, r.isLive side = false) :
      ((r.note (.log (.attemptStarted (b.attempts + 1)))).startPair .running).Matched := by
    have hn : (r.note (.log (.attemptStarted (b.attempts + 1)))).Matched := hr.congr rfl rfl rfl
    exact hn.startPair streams hl .running
  have hheard {d : Delivery} {rest : List Delivery} (first : b.relay.underway = d :: rest)
      (hd : d.answer? = none) (n : Note) :
      (({ b.relay with underway := rest } : Relay ω).note n).Matched := by
    refine h.congr rfl rfl ?_
    rw [Relay.answers, Relay.answers, first, List.filterMap_cons_none hd]
    rfl
  have ht := step_transition occur b e
  generalize b.step occur e = b' at ht
  cases ht with
  | still | signalled | waited => exact h
  | refused | declined | interrupted | completed => exact h.congr rfl rfl rfl
  | started run isFree going more =>
    have hr : b.run = none := by simpa [isFree] using hb.isBusy_iff
    exact hstart h (free (Or.inl hr))
  | cancelled signal reason run fresh current own unpaused => exact h.cancel streams reason
  | resumed duration run pause current paused going more =>
    exact hstart h (free (Or.inr (Option.isSome_of_eq_some paused)))
  | occurred event result happened =>
    exact h.withWorld (streams.occur event b.relay.world result happened)
  | answered relay answer rest first => exact h.deliver streams first
  | guestAnswered number outcome rest first => exact hheard first rfl _
  | rejected side failure rest first left =>
    exact (hheard first rfl (.sessionEnded side failure)).cancel streams failure
  | joinedStopped side failure rest run first last current stopped =>
    exact ((hheard first rfl (.sessionEnded side failure)).cancel streams failure).congr rfl rfl rfl
  | joinedFailed side failure rest run first last current going =>
    exact ((hheard first rfl (.sessionEnded side failure)).cancel streams failure).congr rfl rfl rfl

end Bridge

end TelemetryBridge
