import TelemetryBridge.Proofs.BridgeSteps

/-!
# The life of sessions

Sessions start, end, and are heard of: what a relay does to them, for any endpoints whatever. Between
its start and its end a session is live; the news of its end stays underway until the bridge hears
it. Answers, cancellation and events leave both sides as they are or end one session
(`Relay.answer_continues_or_ends`), and an attempt starts both (`Relay.starts_pair`).
-/

namespace TelemetryBridge

/-- Whether a session in this phase has not ended. -/
def SubscribeSession.Phase.isLive : SubscribeSession.Phase → Bool
  | ended _ => false
  | _ => true

/-- Whether a session in this phase has not ended. -/
def PublishSession.Phase.isLive : PublishSession.Phase → Bool
  | ended _ => false
  | _ => true

/-- Whether a delivery is the news that a session of the given side has ended. -/
def Delivery.tells (side : Side) : Delivery → Bool
  | ended s _ => s = side
  | _ => false

/-- The note that the stream of a side is closed. -/
def Note.closing : Side → Note
  | .subscribe => .subscriberAsked .close
  | .publish => .publisherAsked .close

/-- Whether a note is about the course of a session, and not about its start or end. -/
def Note.isQuiet : Note → Bool
  | subscriberTold _ | publisherTold _ | guestAnswered _ _ | log (.requestSent _)
  | log .publishOpened => true
  | subscriberAsked command => match command with
    | .close => false
    | _ => true
  | publisherAsked command => match command with
    | .close => false
    | _ => true
  | _ => false

namespace Relay

variable {ω : Type}

/-- Whether the session of a side has started and not ended. -/
def isLive (r : Relay ω) : Side → Bool
  | .subscribe => r.subscriber.any (·.isLive)
  | .publish => r.publisher.any (·.isLive)

/-- How much news of the end of a session is underway. -/
def news (r : Relay ω) (side : Side) : Nat := r.underway.countP (Delivery.tells side)

/-- No session has started or ended from the first relay to the second. -/
structure Continues (r r' : Relay ω) : Prop where
  live : ∀ side, r'.isLive side = r.isLive side
  news : ∀ side, r'.news side = r.news side
  history : ∃ ns, (∀ n ∈ ns, n.isQuiet = true) ∧ r'.history = r.history ++ ns

/-- The session of the given side has ended and closed its stream, and news of it is underway. -/
structure Ends (side : Side) (r r' : Relay ω) : Prop where
  wasLive : r.isLive side = true
  dead : r'.isLive side = false
  live : ∀ s, s ≠ side → r'.isLive s = r.isLive s
  news : ∀ s, r'.news s = r.news s + if s = side then 1 else 0
  history : ∃ ns, (∀ n ∈ ns, n.isQuiet = true) ∧ r'.history = r.history ++ ns ++ [.closing side]

lemma Continues.refl (r : Relay ω) : Continues r r :=
  ⟨fun _ => rfl, fun _ => rfl, [], by simp, by simp⟩

lemma Continues.trans {r r' r'' : Relay ω} (h : Continues r r') (h' : Continues r' r'') :
    Continues r r'' := by
  obtain ⟨ns, hq, hn⟩ := h.history
  obtain ⟨ms, hq', hm⟩ := h'.history
  refine ⟨fun s => (h'.live s).trans (h.live s), fun s => (h'.news s).trans (h.news s), ns ++ ms, ?_,
    by rw [hm, hn, List.append_assoc]⟩
  intro n hmem
  rcases List.mem_append.mp hmem with h | h
  · exact hq n h
  · exact hq' n h

lemma Continues.ends {r r' r'' : Relay ω} {side : Side} (h : Continues r r')
    (h' : Ends side r' r'') : Ends side r r'' := by
  obtain ⟨ns, hq, hn⟩ := h.history
  obtain ⟨ms, hq', hm⟩ := h'.history
  refine ⟨(h.live side).symm.trans h'.wasLive, h'.dead, fun s hs => (h'.live s hs).trans (h.live s),
    fun s => by rw [h'.news, h.news], ns ++ ms, ?_, by rw [hm, hn, List.append_assoc r.history]⟩
  intro n hmem
  rcases List.mem_append.mp hmem with h | h
  · exact hq n h
  · exact hq' n h

lemma continues_note (r : Relay ω) {n : Note} (h : n.isQuiet = true) : Continues r (r.note n) :=
  ⟨fun s => by cases s <;> rfl, fun _ => rfl, [n], by simpa using h, rfl⟩

/-- Taking answers off the way is no end of a session. -/
lemma continues_underway (r : Relay ω) {ds : List Delivery}
    (h : ∀ side, r.underway.countP (Delivery.tells side) = ds.countP (Delivery.tells side)) :
    Continues r { r with underway := ds } :=
  ⟨fun s => by cases s <;> rfl, fun s => (h s).symm, [], by simp, by simp⟩

lemma continues_post (r : Relay ω) {ds : List Delivery}
    (h : ∀ d ∈ ds, ∀ side, Delivery.tells side d = false) : Continues r (r.post ds) := by
  refine ⟨fun s => by cases s <;> rfl, fun s => ?_, [], by simp, by simp [post]⟩
  have hz : ds.countP (Delivery.tells s) = 0 :=
    List.countP_eq_zero.mpr fun d hd => by simp [h d hd s]
  simp [news, post, hz]

lemma continues_withWorld (r : Relay ω) (result : List Answer × ω) :
    Continues r (r.withWorld result) := by
  have hw : Continues r { r with world := result.2 } :=
    ⟨fun s => by cases s <;> rfl, fun _ => rfl, [], by simp, by simp⟩
  refine hw.trans (continues_post _ ?_)
  intro d hd side
  obtain ⟨a, -, rfl⟩ := List.mem_map.mp hd
  rfl

lemma tells_outcomeDelivery (side : Side) (result : Party × CallOutcome Update) :
    Delivery.tells side (outcomeDelivery result) = false := by
  obtain ⟨party, outcome⟩ := result
  cases party <;> cases outcome <;> rfl

lemma continues_withHandoff (r : Relay ω)
    (result : Handoff Party Scope Update × List (Party × CallOutcome Update)) :
    Continues r (r.withHandoff result) := by
  have hh : Continues r { r with handoff := result.1 } :=
    ⟨fun s => by cases s <;> rfl, fun _ => rfl, [], by simp, by simp⟩
  refine hh.trans (continues_post _ ?_)
  intro d hd side
  obtain ⟨a, -, rfl⟩ := List.mem_map.mp hd
  exact tells_outcomeDelivery side a

section

variable [Endpoints ω]

lemma continues_cancel (r : Relay ω) (reason : Failure) : Continues r (r.cancel reason) := by
  unfold cancel
  split
  · exact Continues.refl r
  · exact (continues_withWorld r _).trans (continues_withHandoff _ _)

/-! ## Commands -/

lemma continues_carryOutSubscriber (r : Relay ω) (command : SubscribeSession.Command) :
    Continues r (r.carryOutSubscriber command) := by
  cases command with
  | sendRequest => exact continues_withWorld r _
  | receive => exact continues_withWorld r _
  | offer update => exact continues_withHandoff r _
  | close => exact continues_withWorld r _
  | noteRequestSent => exact continues_note r rfl

lemma continues_carryOutPublisher (r : Relay ω) (command : PublishSession.Command) :
    Continues r (r.carryOutPublisher command) := by
  cases command with
  | take => exact continues_withHandoff r _
  | send update => exact continues_withWorld r _
  | forwarded update =>
    exact ⟨fun s => by cases s <;> rfl, fun _ => rfl, [], by simp, by simp [carryOutPublisher]⟩
  | close => exact continues_withWorld r _
  | noteOpened => exact continues_note r rfl

lemma continues_obeySubscriber (r : Relay ω) {commands : List SubscribeSession.Command}
    (h : .close ∉ commands) : Continues r (commands.foldl obeySubscriber r) := by
  induction commands generalizing r with
  | nil => exact Continues.refl r
  | cons command commands ih =>
    have hq : (Note.subscriberAsked command).isQuiet = true := by
      cases command <;> first | rfl | exact absurd List.mem_cons_self h
    exact ((continues_note r hq).trans (continues_carryOutSubscriber _ command)).trans
      (ih _ fun hmem => h (List.mem_cons_of_mem _ hmem))

lemma continues_obeyPublisher (r : Relay ω) {commands : List PublishSession.Command}
    (h : .close ∉ commands) : Continues r (commands.foldl obeyPublisher r) := by
  induction commands generalizing r with
  | nil => exact Continues.refl r
  | cons command commands ih =>
    have hq : (Note.publisherAsked command).isQuiet = true := by
      cases command <;> first | rfl | exact absurd List.mem_cons_self h
    exact ((continues_note r hq).trans (continues_carryOutPublisher _ command)).trans
      (ih _ fun hmem => h (List.mem_cons_of_mem _ hmem))

/-! ## Moves of a session -/

lemma moveSubscriber_of_live (r : Relay ω)
    {next : SubscribeSession.Phase × List SubscribeSession.Command} (hl : next.1.isLive = true) :
    r.moveSubscriber next = next.2.foldl obeySubscriber { r with subscriber := some next.1 } := by
  obtain ⟨phase, commands⟩ := next
  cases phase with
  | ended failure => cases hl
  | requesting | receiving | offering update => rfl

lemma movePublisher_of_live (r : Relay ω)
    {next : PublishSession.Phase × List PublishSession.Command} (hl : next.1.isLive = true) :
    r.movePublisher next = next.2.foldl obeyPublisher { r with publisher := some next.1 } := by
  obtain ⟨phase, commands⟩ := next
  cases phase with
  | ended failure => cases hl
  | taking | sending update => rfl

/-- A session moves by its phase, its commands one by one, and the news of its end. -/
lemma moveSubscriber_induction {P : Relay ω → Prop} {r : Relay ω}
    {next : SubscribeSession.Phase × List SubscribeSession.Command}
    (moved : P { r with subscriber := some next.1 })
    (obey : ∀ r command, P r → P (r.obeySubscriber command))
    (ended : ∀ r failure, P r → P (r.post [.ended .subscribe failure])) :
    P (r.moveSubscriber next) := by
  have hobeyed : P (next.2.foldl obeySubscriber { r with subscriber := some next.1 }) :=
    List.foldlRecOn next.2 obeySubscriber moved fun r hr command _ => obey r command hr
  unfold moveSubscriber
  dsimp only
  split
  · exact ended _ _ hobeyed
  · exact hobeyed

lemma movePublisher_induction {P : Relay ω → Prop} {r : Relay ω}
    {next : PublishSession.Phase × List PublishSession.Command}
    (moved : P { r with publisher := some next.1 })
    (obey : ∀ r command, P r → P (r.obeyPublisher command))
    (ended : ∀ r failure, P r → P (r.post [.ended .publish failure])) :
    P (r.movePublisher next) := by
  have hobeyed : P (next.2.foldl obeyPublisher { r with publisher := some next.1 }) :=
    List.foldlRecOn next.2 obeyPublisher moved fun r hr command _ => obey r command hr
  unfold movePublisher
  dsimp only
  split
  · exact ended _ _ hobeyed
  · exact hobeyed

lemma continues_moveSubscriber (r : Relay ω) (hr : r.isLive .subscribe = true)
    {next : SubscribeSession.Phase × List SubscribeSession.Command} (hl : next.1.isLive = true)
    (hc : .close ∉ next.2) : Continues r (r.moveSubscriber next) := by
  rw [moveSubscriber_of_live r hl]
  have hs : Continues r { r with subscriber := some next.1 } := by
    refine ⟨fun s => ?_, fun _ => rfl, [], by simp, by simp⟩
    cases s with
    | subscribe => exact hl.trans hr.symm
    | publish => rfl
  exact hs.trans (continues_obeySubscriber _ hc)

lemma continues_movePublisher (r : Relay ω) (hr : r.isLive .publish = true)
    {next : PublishSession.Phase × List PublishSession.Command} (hl : next.1.isLive = true)
    (hc : .close ∉ next.2) : Continues r (r.movePublisher next) := by
  rw [movePublisher_of_live r hl]
  have hp : Continues r { r with publisher := some next.1 } := by
    refine ⟨fun s => ?_, fun _ => rfl, [], by simp, by simp⟩
    cases s with
    | subscribe => rfl
    | publish => exact hl.trans hr.symm
  exact hp.trans (continues_obeyPublisher _ hc)

lemma ends_moveSubscriber (r : Relay ω) (hr : r.isLive .subscribe = true) (failure : Failure) :
    Ends .subscribe r (r.moveSubscriber (.ended failure, [.close])) := by
  refine ⟨hr, rfl, fun s hs => ?_, fun s => ?_, [], by simp, ?_⟩
  · cases s with
    | subscribe => exact absurd rfl hs
    | publish => rfl
  · have h := (continues_withWorld ({ r with subscriber := some (.ended failure) }.note
      (.subscriberAsked .close)) (Endpoints.closeSubscribe r.world)).news s
    cases s <;> simpa [news, Relay.note, moveSubscriber, obeySubscriber, carryOutSubscriber, post,
      Delivery.tells] using h
  · simp [moveSubscriber, obeySubscriber, carryOutSubscriber, withWorld, post, Relay.note,
      Note.closing]

lemma ends_movePublisher (r : Relay ω) (hr : r.isLive .publish = true) (failure : Failure) :
    Ends .publish r (r.movePublisher (.ended failure, [.close])) := by
  refine ⟨hr, rfl, fun s hs => ?_, fun s => ?_, [], by simp, ?_⟩
  · cases s with
    | subscribe => rfl
    | publish => exact absurd rfl hs
  · have h := (continues_withWorld ({ r with publisher := some (.ended failure) }.note
      (.publisherAsked .close)) (Endpoints.closePublish r.world)).news s
    cases s <;> simpa [news, Relay.note, movePublisher, obeyPublisher, carryOutPublisher, post,
      Delivery.tells] using h
  · simp [movePublisher, obeyPublisher, carryOutPublisher, withWorld, post, Relay.note,
      Note.closing]

omit [Endpoints ω] in
lemma isLive_subscribe {r : Relay ω} {phase : SubscribeSession.Phase} (h : r.subscriber = some phase) :
    r.isLive .subscribe = phase.isLive := by
  simp [isLive, h]

omit [Endpoints ω] in
lemma isLive_publish {r : Relay ω} {phase : PublishSession.Phase} (h : r.publisher = some phase) :
    r.isLive .publish = phase.isLive := by
  simp [isLive, h]

omit [Endpoints ω] in
lemma isLive_subscribe_congr {r r' : Relay ω} (h : r'.subscriber = r.subscriber) :
    r'.isLive .subscribe = r.isLive .subscribe := by
  rw [isLive, isLive, h]

omit [Endpoints ω] in
lemma isLive_publish_congr {r r' : Relay ω} (h : r'.publisher = r.publisher) :
    r'.isLive .publish = r.isLive .publish := by
  rw [isLive, isLive, h]

/-! ## Answers -/

omit [Endpoints ω] in
lemma react_subscriber_cases (aborted : Option Failure) {phase : SubscribeSession.Phase}
    (h : phase.isLive = true) (reply : SubscribeSession.Reply) :
    ((SubscribeSession.react aborted phase reply).1.isLive = true ∧
        .close ∉ (SubscribeSession.react aborted phase reply).2) ∨
      ∃ failure, SubscribeSession.react aborted phase reply = (.ended failure, [.close]) := by
  unfold SubscribeSession.react
  split <;> simp_all [SubscribeSession.Phase.isLive]

omit [Endpoints ω] in
lemma react_publisher_cases (aborted : Option Failure) {phase : PublishSession.Phase}
    (h : phase.isLive = true) (reply : PublishSession.Reply) :
    ((PublishSession.react aborted phase reply).1.isLive = true ∧
        .close ∉ (PublishSession.react aborted phase reply).2) ∨
      ∃ failure, PublishSession.react aborted phase reply = (.ended failure, [.close]) := by
  unfold PublishSession.react
  split <;> simp_all [PublishSession.Phase.isLive]

lemma answer_subscriber_of_live {r : Relay ω} {phase : SubscribeSession.Phase}
    (hs : r.subscriber = some phase) (hl : phase.isLive = true) (reply : SubscribeSession.Reply) :
    r.answer (.subscriber reply) = (r.note (.subscriberTold reply)).moveSubscriber
      (SubscribeSession.react r.cancelled? phase reply) := by
  cases phase with
  | ended failure => cases hl
  | requesting | receiving | offering update => simp [answer, hs]

lemma answer_publisher_of_live {r : Relay ω} {phase : PublishSession.Phase}
    (hp : r.publisher = some phase) (hl : phase.isLive = true) (reply : PublishSession.Reply) :
    r.answer (.publisher reply) = (r.note (.publisherTold reply)).movePublisher
      (PublishSession.react r.cancelled? phase reply) := by
  cases phase with
  | ended failure => cases hl
  | taking | sending update => simp [answer, hp]

lemma answer_subscriber_of_not_live {r : Relay ω} (h : r.isLive .subscribe = false)
    (reply : SubscribeSession.Reply) : r.answer (.subscriber reply) = r := by
  rcases hs : r.subscriber with _ | phase
  · simp [answer, hs]
  · cases phase <;> simp_all [answer, isLive, SubscribeSession.Phase.isLive]

lemma answer_publisher_of_not_live {r : Relay ω} (h : r.isLive .publish = false)
    (reply : PublishSession.Reply) : r.answer (.publisher reply) = r := by
  rcases hp : r.publisher with _ | phase
  · simp [answer, hp]
  · cases phase <;> simp_all [answer, isLive, PublishSession.Phase.isLive]

omit [Endpoints ω] in
lemma exists_of_isLive_subscribe {r : Relay ω} (h : r.isLive .subscribe = true) :
    ∃ phase, r.subscriber = some phase ∧ phase.isLive = true := by
  simpa [isLive, Option.any_eq_true] using h

omit [Endpoints ω] in
lemma exists_of_isLive_publish {r : Relay ω} (h : r.isLive .publish = true) :
    ∃ phase, r.publisher = some phase ∧ phase.isLive = true := by
  simpa [isLive, Option.any_eq_true] using h

/-- An answer leaves both sides as they are, or ends one session. -/
theorem answer_continues_or_ends (r : Relay ω) (a : Answer) :
    Continues r (r.answer a) ∨ ∃ side, Ends side r (r.answer a) := by
  cases a with
  | subscriber reply =>
    rcases hr : r.isLive .subscribe
    · rw [answer_subscriber_of_not_live hr]
      exact Or.inl (Continues.refl r)
    · obtain ⟨phase, hs, hl⟩ := exists_of_isLive_subscribe hr
      have hn := continues_note r (n := .subscriberTold reply) rfl
      have hr' := (hn.live .subscribe).trans hr
      rw [answer_subscriber_of_live hs hl]
      rcases react_subscriber_cases r.cancelled? hl reply with ⟨hl', hc⟩ | ⟨failure, he⟩
      · exact Or.inl (hn.trans (continues_moveSubscriber _ hr' hl' hc))
      · rw [he]
        exact Or.inr ⟨.subscribe, hn.ends (ends_moveSubscriber _ hr' failure)⟩
  | publisher reply =>
    rcases hr : r.isLive .publish
    · rw [answer_publisher_of_not_live hr]
      exact Or.inl (Continues.refl r)
    · obtain ⟨phase, hp, hl⟩ := exists_of_isLive_publish hr
      have hn := continues_note r (n := .publisherTold reply) rfl
      have hr' := (hn.live .publish).trans hr
      rw [answer_publisher_of_live hp hl]
      rcases react_publisher_cases r.cancelled? hl reply with ⟨hl', hc⟩ | ⟨failure, he⟩
      · exact Or.inl (hn.trans (continues_movePublisher _ hr' hl' hc))
      · rw [he]
        exact Or.inr ⟨.publish, hn.ends (ends_movePublisher _ hr' failure)⟩
  | later a =>
    refine Or.inl (continues_post r ?_)
    intro d hd side
    rw [List.mem_singleton.mp hd]
    rfl

/-! ## Starts -/

/-- The session of the given side has started. If its stream could not be opened it has ended at
once, and news of it is underway. -/
structure Starts (side : Side) (r r' : Relay ω) : Prop where
  live : ∀ s, s ≠ side → r'.isLive s = r.isLive s
  news : ∀ s, s ≠ side → r'.news s = r.news s
  outcome :
    (r'.isLive side = true ∧ r'.news side = r.news side ∧
        ∃ ns, (∀ n ∈ ns, n.isQuiet = true) ∧ r'.history = r.history ++ .opened side :: ns) ∨
      (r'.isLive side = false ∧ r'.news side = r.news side + 1 ∧ r'.history = r.history)

lemma starts_subscriber (r : Relay ω) (hc : r.cancelled? = none) :
    Starts .subscribe r r.startSubscriber := by
  unfold startSubscriber
  rw [hc]
  dsimp only
  rcases (Endpoints.openSubscribe r.metadata r.world).1 with failure | _
  · refine ⟨?_, ?_, Or.inr ⟨rfl, ?_, rfl⟩⟩
    · rintro (_ | _) h
      · exact absurd rfl h
      · rfl
    · rintro (_ | _) h
      · exact absurd rfl h
      · simp [news, moveSubscriber, SubscribeSession.opened, noteOpening, post, Delivery.tells]
    · simp [news, moveSubscriber, SubscribeSession.opened, noteOpening, post, Delivery.tells]
  · rw [moveSubscriber_of_live _ rfl]
    have hc : .close ∉ (SubscribeSession.opened (.ok ())).2 := by simp [SubscribeSession.opened]
    obtain ⟨live, news, ns, hq, hn⟩ := continues_obeySubscriber
      ({ { r with world := (Endpoints.openSubscribe r.metadata r.world).2 }.noteOpening .subscribe
        (.ok ()) with subscriber := some (SubscribeSession.opened (.ok ())).1 }) hc
    refine ⟨?_, fun s _ => news s, Or.inl ⟨live .subscribe, news .subscribe, ns, hq, ?_⟩⟩
    · rintro (_ | _) h
      · exact absurd rfl h
      · exact live .publish
    · rw [hn]
      simp [noteOpening, Relay.note]

lemma starts_publisher (r : Relay ω) (hc : r.cancelled? = none) :
    Starts .publish r r.startPublisher := by
  unfold startPublisher
  rw [hc]
  dsimp only
  rcases (Endpoints.openPublish r.world).1 with failure | _
  · refine ⟨?_, ?_, Or.inr ⟨rfl, ?_, rfl⟩⟩
    · rintro (_ | _) h
      · rfl
      · exact absurd rfl h
    · rintro (_ | _) h
      · simp [news, movePublisher, PublishSession.opened, noteOpening, post, Delivery.tells]
      · exact absurd rfl h
    · simp [news, movePublisher, PublishSession.opened, noteOpening, post, Delivery.tells]
  · rw [movePublisher_of_live _ rfl]
    have hc : .close ∉ (PublishSession.opened (.ok ())).2 := by simp [PublishSession.opened]
    obtain ⟨live, news, ns, hq, hn⟩ := continues_obeyPublisher
      ({ { r with world := (Endpoints.openPublish r.world).2 }.noteOpening .publish
        (.ok ()) with publisher := some (PublishSession.opened (.ok ())).1 }) hc
    refine ⟨?_, fun s _ => news s, Or.inl ⟨live .publish, news .publish, ns, hq, ?_⟩⟩
    · rintro (_ | _) h
      · exact live .subscribe
      · exact absurd rfl h
    · rw [hn]
      simp [noteOpening, Relay.note]

lemma startSubscriber_handoff (r : Relay ω) (hc : r.cancelled? = none) :
    r.startSubscriber.handoff = r.handoff := by
  unfold startSubscriber
  rw [hc]
  dsimp only
  rcases (Endpoints.openSubscribe r.metadata r.world).1 with failure | _ <;> rfl

/-- The relay with a fresh scope and without sessions. -/
def fresh (r : Relay ω) : Relay ω := { r with handoff := {}, subscriber := none, publisher := none }

/-- The relay with both sessions started, the subscribe session first. -/
def startPair (r : Relay ω) (status : BridgeStatus) : Relay ω :=
  ((r.fresh.note (.opening .subscribe 2 status)).startSubscriber.note
    (.opening .publish 2 status)).startPublisher

lemma starts_pair (r : Relay ω) (status : BridgeStatus) :
    ∃ r₁, Starts .subscribe (r.fresh.note (.opening .subscribe 2 status)) r₁ ∧
      Starts .publish (r₁.note (.opening .publish 2 status)) (r.startPair status) := by
  refine ⟨_, starts_subscriber _ rfl, starts_publisher _ ?_⟩
  change Handoff.reason? (Relay.startSubscriber _).handoff .session = none
  rw [startSubscriber_handoff _ rfl]
  rfl

end

end Relay

namespace Bridge

variable {ω ε : Type}

/-- Sessions of a side that have started and of whose end the bridge has not heard. -/
def unfinished (b : Bridge ω) (side : Side) : Nat :=
  (b.relay.isLive side).toNat + b.relay.news side

/-- What a status goes with: a run in progress, a delay, sessions that have not ended. -/
def StatusFits (b : Bridge ω) : Prop :=
  match b.status with
  | .running => b.run.isSome = true ∧ b.pause = none ∧ 0 < b.active
  | .restarting => b.run.isSome = true ∧ b.pause.isSome = true ∧ b.active = 0
  | .idle | .stopped => b.run = none ∧ b.pause = none ∧ b.active = 0

/-- The bridge knows which of its sessions have not ended. -/
structure Lifecycle (b : Bridge ω) : Prop where
  once : ∀ side, b.unfinished side ≤ 1
  active : b.active = b.unfinished .subscribe + b.unfinished .publish
  status : b.StatusFits

lemma Lifecycle.isBusy_iff {b : Bridge ω} (h : b.Lifecycle) : b.isBusy = true ↔ b.run.isSome = true := by
  have hs := h.status
  unfold StatusFits at hs
  unfold isBusy
  rcases hb : b.status <;> rw [hb] at hs <;> simp [hs.1]

/-- Without a run, or in the delay of a run, all sessions have ended and are heard of. -/
lemma Lifecycle.active_eq_zero {b : Bridge ω} (h : b.Lifecycle)
    (hq : b.run = none ∨ b.pause.isSome = true) : b.active = 0 := by
  have hs := h.status
  unfold StatusFits at hs
  rcases hb : b.status <;> rw [hb] at hs
  · exact hs.2.2
  · rcases hq with hq | hq
    · simp [hq] at hs
    · simp [hs.2.1] at hq
  · exact hs.2.2
  · exact hs.2.2

lemma Lifecycle.unfinished_eq_zero {b : Bridge ω} (h : b.Lifecycle) (ha : b.active = 0) (side : Side) :
    b.unfinished side = 0 := by
  have := h.active
  cases side <;> omega

lemma news_of_atRest {b : Bridge ω} (h : b.AtRest) (side : Side) : b.relay.news side = 0 := by
  unfold Relay.news
  rw [h]
  rfl

lemma Lifecycle.active_of_atRest {b : Bridge ω} (h : b.Lifecycle) (hr : b.AtRest) :
    b.active = (b.relay.isLive .subscribe).toNat + (b.relay.isLive .publish).toNat := by
  have ha := h.active
  unfold unfinished at ha
  rwa [news_of_atRest hr, news_of_atRest hr] at ha

lemma Lifecycle.live_of_atRest {b : Bridge ω} (h : b.Lifecycle) (hr : b.AtRest) (ha : b.active = 2)
    (side : Side) : b.relay.isLive side = true := by
  have hc := h.active_of_atRest hr
  have hs := Bool.toNat_le (b.relay.isLive .subscribe)
  have hp := Bool.toNat_le (b.relay.isLive .publish)
  cases side with
  | subscribe =>
    apply Bool.toNat_eq_one.mp
    omega
  | publish =>
    apply Bool.toNat_eq_one.mp
    omega

lemma Lifecycle.running_of_active {b : Bridge ω} (h : b.Lifecycle) (ha : b.active ≠ 0) :
    b.status = .running ∧ b.run.isSome = true ∧ b.pause = none := by
  have hs := h.status
  unfold StatusFits at hs
  rcases hb : b.status <;> rw [hb] at hs
  · exact absurd hs.2.2 ha
  · exact ⟨rfl, hs.1, hs.2.1⟩
  · exact absurd hs.2.2 ha
  · exact absurd hs.2.2 ha

lemma Lifecycle.dead {b : Bridge ω} (h : b.Lifecycle) (hs : b.status ≠ .running) (side : Side) :
    b.relay.isLive side = false := by
  have hz : b.active = 0 := by
    by_contra ha
    exact hs (h.running_of_active ha).1
  exact Bool.toNat_eq_zero.mp (Nat.add_eq_zero_iff.mp (h.unfinished_eq_zero hz side)).1

lemma unfinished_congr {b b' : Bridge ω} (h : b.relay.Continues b'.relay) (side : Side) :
    b'.unfinished side = b.unfinished side := by
  unfold unfinished
  rw [h.live, h.news]

lemma Lifecycle.of_continues {b : Bridge ω} (h : b.Lifecycle) {r : Relay ω}
    (hr : b.relay.Continues r) : { b with relay := r }.Lifecycle :=
  have hu : ∀ s, { b with relay := r }.unfinished s = b.unfinished s := unfinished_congr hr
  ⟨fun s => (hu s).symm ▸ h.once s, by rw [hu, hu]; exact h.active, h.status⟩

lemma unfinished_of_ends {b : Bridge ω} {r : Relay ω} {side : Side} (h : b.relay.Ends side r)
    (s : Side) : { b with relay := r }.unfinished s = b.unfinished s := by
  unfold unfinished
  rw [h.news]
  by_cases hs : s = side
  · subst hs
    simp [h.wasLive, h.dead, Nat.add_comm]
  · simp [hs, h.live s hs]

lemma Lifecycle.of_ends {b : Bridge ω} (h : b.Lifecycle) {r : Relay ω} {side : Side}
    (hr : b.relay.Ends side r) : { b with relay := r }.Lifecycle :=
  have hu := unfinished_of_ends hr
  ⟨fun s => (hu s).symm ▸ h.once s, by rw [hu, hu]; exact h.active, h.status⟩

lemma Lifecycle.stop {b : Bridge ω} (h : ∀ side, b.unfinished side = 0) (ha : b.active = 0)
    (run : BridgeRun) : (b.stop run).Lifecycle := by
  refine ⟨fun s => (h s).symm ▸ Nat.zero_le 1, ?_, rfl, rfl, ha⟩
  change b.active = b.unfinished .subscribe + b.unfinished .publish
  rw [h, h, ha]

lemma lifecycle_create (world : ω) (request : SubscribeRequest) (metadata : Option Login)
    (policy : Backoff.Policy) (timer : Backoff.Timer) :
    (create world request metadata policy timer).Lifecycle :=
  ⟨fun s => by cases s <;> exact Nat.zero_le 1, rfl, rfl, rfl, rfl⟩

section

variable [Endpoints ω]

omit [Endpoints ω] in
/-- After its start a session is unfinished, whether its stream could be opened or not. -/
lemma unfinished_of_starts {r r' : Relay ω} {side : Side} (h : r.Starts side r')
    (hn : r.news side = 0) : (r'.isLive side).toNat + r'.news side = 1 := by
  rcases h.outcome with ⟨hl, hn', -⟩ | ⟨hl, hn', -⟩
  · rw [hl, hn', hn]
    rfl
  · rw [hl, hn', hn]
    rfl

lemma unfinished_startPair {r : Relay ω} (h : ∀ side, r.news side = 0) (status : BridgeStatus)
    (side : Side) : ((r.startPair status).isLive side).toNat + (r.startPair status).news side = 1 := by
  obtain ⟨r₁, hs, hp⟩ := r.starts_pair status
  cases side with
  | subscribe =>
    rw [hp.live .subscribe (by decide), hp.news .subscribe (by decide)]
    have hn : (r.fresh.note (.opening .subscribe 2 status)).news .subscribe = 0 := h .subscribe
    have hu := unfinished_of_starts hs hn
    exact hu
  | publish =>
    refine unfinished_of_starts hp ?_
    exact (hs.news .publish (by decide)).trans (h .publish)

lemma Lifecycle.startAttempt {b : Bridge ω} (h : ∀ side, b.unfinished side = 0) (run : BridgeRun) :
    (b.startAttempt run).Lifecycle := by
  have hn : ∀ side, b.relay.news side = 0 := fun side => (Nat.add_eq_zero_iff.mp (h side)).2
  have hu : ∀ side, (b.startAttempt run).unfinished side = 1 :=
    unfinished_startPair (r := b.relay.note (.log (.attemptStarted (b.attempts + 1)))) hn .running
  refine ⟨fun side => Nat.le_of_eq (hu side), ?_, rfl, rfl, Nat.succ_pos 1⟩
  rw [hu, hu]
  rfl

lemma unfinished_hear {b : Bridge ω} {side : Side} {failure : Failure} {rest : List Delivery}
    (hu : b.relay.underway = .ended side failure :: rest) (s : Side) :
    (b.hear side failure rest).unfinished s + (if s = side then 1 else 0) = b.unfinished s := by
  have hc := Relay.continues_cancel
    ({ b.relay with underway := rest }.note (.sessionEnded side failure)) failure
  have hl : (b.hear side failure rest).relay.isLive s = b.relay.isLive s :=
    (hc.live s).trans (by cases s <;> rfl)
  have hn : (b.hear side failure rest).relay.news s + (if s = side then 1 else 0) = b.relay.news s := by
    have h : (b.hear side failure rest).relay.news s = rest.countP (Delivery.tells s) := hc.news s
    rw [h]
    unfold Relay.news
    rw [hu, List.countP_cons]
    by_cases hs : s = side
    · simp [Delivery.tells, hs]
    · simp [Delivery.tells, hs, Ne.symm hs]
  unfold unfinished
  rw [hl]
  omega

lemma active_pos_of_news {b : Bridge ω} (h : b.Lifecycle) {side : Side} {failure : Failure}
    {rest : List Delivery} (hu : b.relay.underway = .ended side failure :: rest) : b.active ≠ 0 := by
  have ha := h.active
  have hs := unfinished_hear hu side
  cases side <;> simp at hs <;> omega

lemma Lifecycle.hear {b : Bridge ω} (h : b.Lifecycle) {side : Side} {failure : Failure}
    {rest : List Delivery} (hu : b.relay.underway = .ended side failure :: rest)
    (hl : b.active - 1 ≠ 0) : (b.hear side failure rest).Lifecycle := by
  have hs := unfinished_hear hu .subscribe
  have hp := unfinished_hear hu .publish
  have ha := h.active
  obtain ⟨hst, hr, hpz⟩ := h.running_of_active (active_pos_of_news h hu)
  refine ⟨fun s => ?_, ?_, ?_⟩
  · have := unfinished_hear hu s
    have := h.once s
    omega
  · change b.active - 1 = _
    cases side <;> simp at hs hp <;> omega
  · have hst' : (b.hear side failure rest).status = .running := hst
    unfold StatusFits
    rw [hst']
    exact ⟨hr, hpz, Nat.pos_of_ne_zero hl⟩

lemma unfinished_hear_last {b : Bridge ω} (h : b.Lifecycle) {side : Side} {failure : Failure}
    {rest : List Delivery} (hu : b.relay.underway = .ended side failure :: rest)
    (hz : b.active - 1 = 0) (s : Side) : (b.hear side failure rest).unfinished s = 0 := by
  have hs := unfinished_hear hu .subscribe
  have hp := unfinished_hear hu .publish
  have ha := h.active
  cases side <;> cases s <;> simp at hs hp <;> omega

/-- The lifecycle is kept by every event. -/
theorem Lifecycle.step {b : Bridge ω} (h : b.Lifecycle)
    (occur : ε → ω → Option (List Answer × ω)) (e : BridgeEvent ε) : (b.step occur e).Lifecycle := by
  have idle (hf : b.isBusy = false) : b.run = none := by simpa [hf] using h.isBusy_iff
  have free (hf : b.isBusy = false) (side : Side) : b.unfinished side = 0 :=
    h.unfinished_eq_zero (h.active_eq_zero (Or.inl (idle hf))) side
  have paused {pause : Pause} (hp : b.pause = some pause) : b.active = 0 :=
    h.active_eq_zero (Or.inr (Option.isSome_of_eq_some hp))
  have ht := step_transition occur b e
  generalize b.step occur e = b' at ht
  cases ht with
  | still => exact h
  | refused run busy => exact ⟨h.once, h.active, h.status⟩
  | started run isFree going more => exact Lifecycle.startAttempt (free isFree) run
  | declined run isFree spent =>
    exact Lifecycle.stop (free isFree) (h.active_eq_zero (Or.inl (idle isFree))) run
  | signalled signal reason fresh other => exact ⟨h.once, h.active, h.status⟩
  | cancelled signal reason run fresh current own unpaused =>
    have hc := h.of_continues (Relay.continues_cancel b.relay reason)
    exact ⟨hc.once, hc.active, hc.status⟩
  | interrupted signal reason run pause fresh current own isPaused =>
    exact Lifecycle.stop (b := { b with aborted := b.aborted ++ [(signal, reason)] })
      (h.unfinished_eq_zero (paused isPaused)) (paused isPaused) run
  | waited duration => exact ⟨h.once, h.active, h.status⟩
  | resumed duration run pause current isPaused going more =>
    exact Lifecycle.startAttempt (b := { b with clock := b.clock + duration })
      (h.unfinished_eq_zero (paused isPaused)) run
  | completed duration run pause current isPaused spent =>
    exact Lifecycle.stop (b := { b with clock := b.clock + duration })
      (h.unfinished_eq_zero (paused isPaused)) (paused isPaused) run
  | occurred event result happened => exact h.of_continues (Relay.continues_withWorld b.relay result)
  | answered relay answer rest first =>
    have hc : b.relay.Continues { b.relay with underway := rest } :=
      Relay.continues_underway b.relay (by simp [first, Delivery.tells])
    rcases Relay.answer_continues_or_ends { b.relay with underway := rest } answer with
      hr | ⟨side, hr⟩
    · exact h.of_continues (hc.trans hr)
    · exact h.of_ends (hc.ends hr)
  | guestAnswered number outcome rest first =>
    have hc : b.relay.Continues { b.relay with underway := rest } :=
      Relay.continues_underway b.relay (by simp [first, Delivery.tells])
    exact h.of_continues (hc.trans (Relay.continues_note _ rfl))
  | rejected side failure rest first left =>
    refine h.hear first ?_
    rcases left with left | left
    · exact left
    · obtain ⟨-, hr, -⟩ := h.running_of_active (active_pos_of_news h first)
      simp [left] at hr
  | joinedStopped side failure rest run first last current stopped =>
    exact Lifecycle.stop (unfinished_hear_last h first last) last run
  | joinedFailed side failure rest run first last current going =>
    have hu := unfinished_hear_last h first last
    refine ⟨fun s => (hu s).symm ▸ Nat.zero_le 1, ?_, ?_, rfl, last⟩
    · change b.active - 1 = (b.hear side failure rest).unfinished .subscribe +
        (b.hear side failure rest).unfinished .publish
      rw [hu, hu, last]
    · exact Option.isSome_of_eq_some current

/-- The lifecycle holds after every run. -/
theorem lifecycle_after (world : ω) (request : SubscribeRequest) (metadata : Option Login)
    (policy : Backoff.Policy) (timer : Backoff.Timer) (occur : ε → ω → Option (List Answer × ω))
    (events : List (BridgeEvent ε)) :
    ((create world request metadata policy timer).after occur events).Lifecycle :=
  after_induction (fun _ e h => h.step occur e)
    (lifecycle_create world request metadata policy timer) events

end

end Bridge

end TelemetryBridge
