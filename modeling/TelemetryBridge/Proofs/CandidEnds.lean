import TelemetryBridge.Proofs.Backpressure
import TelemetryBridge.Proofs.EndCauses

/-!
# Ends tell their cause

Whatever the streams do, whoever else uses the hand-off and whenever a signal is aborted, a session
ends with the failure that tells why. The hand-off refuses a session only with the reason of its
scope: sessions listen to no other signal, and a scope is cancelled once.
-/

namespace TelemetryBridge

def Party.isGuest : Party → Bool
  | guest _ => true
  | _ => false

/-- The refusal that is delivered to a session. -/
def Delivery.refusal? : Delivery → Option Failure
  | answer _ a => a.refusal?
  | _ => none

lemma Answer.refusal?_of_isOfStream {a : Answer} (h : a.isOfStream = true) : a.refusal? = none := by
  induction a with
  | subscriber reply => cases reply with
    | offered result => cases h
    | requestSent result | received result => rfl
  | publisher reply => cases reply with
    | taken result => cases h
    | sent result => rfl
  | later a ih => exact ih h

lemma Delivery.refusal?_outcomeDelivery (call : Party) (outcome : CallOutcome Update) :
    (Relay.outcomeDelivery (call, outcome)).refusal? = match outcome with
      | .cancelled reason => if call.isGuest then none else some (.cancelled reason)
      | _ => none := by
  cases call <;> cases outcome <;> rfl

namespace Handoff

variable {h : Handoff Party Scope Update} {call : Party} {signal : Scope}

/-- Only guests listen to another signal than that of the sessions. -/
def Faithful (h : Handoff Party Scope Update) : Prop :=
  ∀ l ∈ h.listeners, l.2.isGuest = false → l.1 = .session

/-- What a call of the hand-off leaves: sessions listen to their scope only, the scope stays
cancelled, and sessions are refused with the reason of the scope. -/
structure Answers (h : Handoff Party Scope Update)
    (result : Handoff Party Scope Update × List (Party × CallOutcome Update)) : Prop where
  faithful : result.1.Faithful
  kept : ∀ reason, h.reason? .session = some reason → result.1.reason? .session = some reason
  refused : ∀ call reason, (call, .cancelled reason) ∈ result.2 → call.isGuest = false →
    result.1.reason? .session = some reason

lemma Faithful.drop (hf : h.Faithful) (p : Scope × Party → Bool) :
    ∀ l ∈ h.listeners.filter p, l.2.isGuest = false → l.1 = .session :=
  fun l hl => hf l (List.mem_of_mem_filter hl)

lemma Faithful.listen (hf : h.Faithful) (hc : call.isGuest = false → signal = .session) :
    ∀ l ∈ h.listeners ++ [(signal, call)], l.2.isGuest = false → l.1 = .session := by
  intro l hl
  rcases List.mem_append.mp hl with hl | hl
  · exact hf l hl
  · rw [List.mem_singleton.mp hl]
    exact hc

lemma Faithful.refuse (hf : h.Faithful) (hc : call.isGuest = false → signal = .session)
    {reason : Failure} (hr : h.reason? signal = some reason) :
    h.Answers (h, [(call, .cancelled reason)]) := by
  refine ⟨hf, fun _ h => h, fun c reason' hm hs => ?_⟩
  obtain ⟨rfl, rfl⟩ : c = call ∧ reason' = reason := by simpa using hm
  exact hc hs ▸ hr

lemma Faithful.send (hf : h.Faithful) (hc : call.isGuest = false → signal = .session)
    (update : Update) : h.Answers (h.send call update signal) := by
  cases hr : h.reason? signal with
  | some reason =>
    rw [send_of_aborted hr]
    exact hf.refuse hc hr
  | none =>
    unfold Handoff.send
    rw [hr]
    dsimp only
    split
    · exact ⟨hf.drop _, fun _ h => h, by simp⟩
    · exact ⟨hf.listen hc, fun _ h => h, by simp⟩

lemma Faithful.receive (hf : h.Faithful) (hc : call.isGuest = false → signal = .session) :
    h.Answers (h.receive call signal) := by
  cases hr : h.reason? signal with
  | some reason =>
    rw [receive_of_aborted hr]
    exact hf.refuse hc hr
  | none =>
    unfold Handoff.receive
    rw [hr]
    dsimp only
    split
    · exact ⟨hf.drop _, fun _ h => h, by simp⟩
    · exact ⟨hf.listen hc, fun _ h => h, by simp⟩

/-- The calls that are cancelled listened to the signal, and those of sessions to their scope. -/
lemma Faithful.abort (hf : h.Faithful) (signal : Scope) (reason : Failure) :
    h.Answers (h.abort signal reason) := by
  cases hr : h.reason? signal with
  | some old =>
    rw [abort_of_aborted hr]
    exact ⟨hf, fun _ h => h, by simp⟩
  | none =>
    have hreason := reason?_abort hr reason .session
    refine ⟨?_, fun old hold => reason?_abort_of_aborted hold, fun c reason' hm hs => ?_⟩
    · rw [abort_of_current hr]
      exact hf.drop _
    · rw [abort_of_current hr] at hm
      obtain ⟨call, hcall, heq⟩ := List.mem_map.mp hm
      cases heq
      obtain ⟨⟨s, c⟩, hl, rfl⟩ := List.mem_map.mp hcall
      obtain ⟨hlistens, hsignal⟩ := List.mem_filter.mp hl
      obtain rfl : s = signal := of_decide_eq_true hsignal
      obtain rfl : s = .session := hf _ hlistens hs
      exact hreason

end Handoff

namespace Relay

variable {ω ε : Type} {r r' : Relay ω}

/-- The hand-off refuses the sessions of the relay with the reason of their scope. -/
structure Candid (r : Relay ω) : Prop where
  faithful : r.handoff.Faithful
  refusals : ∀ d ∈ r.underway, ∀ failure, d.refusal? = some failure →
    r.cancelled?.map Failure.cancelled = some failure

lemma Candid.congr (h : r.Candid) (hh : r'.handoff = r.handoff) (hu : r'.underway = r.underway) :
    r'.Candid := by
  have hc : r'.cancelled? = r.cancelled? := by rw [cancelled?, cancelled?, hh]
  exact ⟨hh ▸ h.faithful, by rw [hu, hc]; exact h.refusals⟩

lemma Candid.post (h : r.Candid) {ds : List Delivery}
    (hd : ∀ d ∈ ds, ∀ failure, d.refusal? = some failure →
      r.cancelled?.map Failure.cancelled = some failure) : (r.post ds).Candid := by
  refine ⟨h.faithful, fun d hm => ?_⟩
  rcases List.mem_append.mp hm with hm | hm
  · exact h.refusals d hm
  · exact hd d hm

lemma Candid.post_ended (h : r.Candid) (side : Side) (failure : Failure) :
    (r.post [.ended side failure]).Candid :=
  h.post (by simp [Delivery.refusal?])

lemma Candid.note (h : r.Candid) (n : Note) : (r.note n).Candid := h.congr rfl rfl

lemma Candid.withWorld (h : r.Candid) {result : List Answer × ω}
    (hs : ∀ a ∈ result.1, a.isOfStream = true) : (r.withWorld result).Candid := by
  have hw : ({ r with world := result.2 } : Relay ω).Candid := h.congr rfl rfl
  apply hw.post
  intro d hm failure hf
  obtain ⟨a, ha, rfl⟩ := List.mem_map.mp hm
  cases (Answer.refusal?_of_isOfStream (hs a ha)).symm.trans hf

lemma Candid.withHandoff (h : r.Candid)
    {result : Handoff Party Scope Update × List (Party × CallOutcome Update)}
    (hr : r.handoff.Answers result) : (r.withHandoff result).Candid := by
  have hkept : ∀ failure, r.cancelled?.map Failure.cancelled = some failure →
      (result.1.reason? .session).map Failure.cancelled = some failure := by
    intro failure hf
    obtain ⟨reason, hreason, rfl⟩ := Option.map_eq_some_iff.mp hf
    rw [hr.kept reason hreason]
    rfl
  refine ⟨hr.faithful, fun d hm failure hf => ?_⟩
  rcases List.mem_append.mp hm with hm | hm
  · exact hkept failure (h.refusals d hm failure hf)
  · obtain ⟨⟨call, outcome⟩, hx, rfl⟩ := List.mem_map.mp hm
    rw [Delivery.refusal?_outcomeDelivery] at hf
    cases outcome with
    | sent | received update => cases hf
    | cancelled reason =>
      by_cases hg : call.isGuest = true
      · simp [hg] at hf
      · obtain rfl : Failure.cancelled reason = failure := by simpa [hg] using hf
        have hreason := hr.refused call reason hx (Bool.eq_false_iff.mpr hg)
        exact congrArg (Option.map Failure.cancelled) hreason

section

variable [Endpoints ω] {occur : ε → ω → Option (List Answer × ω)}

lemma Candid.obeySubscriber (streams : StreamsAnswer occur) (h : r.Candid)
    (command : SubscribeSession.Command) : (r.obeySubscriber command).Candid := by
  have hn := h.note (.subscriberAsked command)
  cases command with
  | sendRequest => exact hn.withWorld (streams.sendRequest r.request r.world)
  | receive => exact hn.withWorld (streams.receive r.world)
  | offer update => exact hn.withHandoff (hn.faithful.send (fun _ => rfl) update)
  | close => exact hn.withWorld (streams.closeSubscribe r.world)
  | noteRequestSent => exact hn.note _

lemma Candid.obeyPublisher (streams : StreamsAnswer occur) (h : r.Candid)
    (command : PublishSession.Command) : (r.obeyPublisher command).Candid := by
  have hn := h.note (.publisherAsked command)
  cases command with
  | take => exact hn.withHandoff (hn.faithful.receive fun _ => rfl)
  | send update => exact hn.withWorld (streams.sendUpdate update r.world)
  | forwarded update => exact hn.congr rfl rfl
  | close => exact hn.withWorld (streams.closePublish r.world)
  | noteOpened => exact hn.note _

lemma Candid.moveSubscriber (streams : StreamsAnswer occur) (h : r.Candid)
    (next : SubscribeSession.Phase × List SubscribeSession.Command) :
    (r.moveSubscriber next).Candid := by
  apply moveSubscriber_induction
  · exact h.congr rfl rfl
  · exact fun _ command h => h.obeySubscriber streams command
  · exact fun _ failure h => h.post_ended .subscribe failure

lemma Candid.movePublisher (streams : StreamsAnswer occur) (h : r.Candid)
    (next : PublishSession.Phase × List PublishSession.Command) :
    (r.movePublisher next).Candid := by
  apply movePublisher_induction
  · exact h.congr rfl rfl
  · exact fun _ command h => h.obeyPublisher streams command
  · exact fun _ failure h => h.post_ended .publish failure

omit [Endpoints ω] in
lemma Candid.opened (h : r.Candid) (side : Side) (result : Except Failure Unit) (world : ω) :
    ({ r with world }.noteOpening side result).Candid := by
  have hw : ({ r with world } : Relay ω).Candid := h.congr rfl rfl
  cases result with
  | ok => exact hw.note _
  | error failure => exact hw

lemma Candid.startSubscriber (streams : StreamsAnswer occur) (h : r.Candid) :
    r.startSubscriber.Candid := by
  unfold Relay.startSubscriber
  split
  · exact h.moveSubscriber streams _
  · exact (h.opened .subscribe _ _).moveSubscriber streams _

lemma Candid.startPublisher (streams : StreamsAnswer occur) (h : r.Candid) :
    r.startPublisher.Candid := by
  unfold Relay.startPublisher
  split
  · exact h.movePublisher streams _
  · exact (h.opened .publish _ _).movePublisher streams _

lemma Candid.cancel (streams : StreamsAnswer occur) (h : r.Candid) (reason : Failure) :
    (r.cancel reason).Candid := by
  unfold Relay.cancel
  split
  · exact h
  · have hw := h.withWorld (streams.cancel r.world)
    exact hw.withHandoff (hw.faithful.abort .session reason)

lemma Candid.answer_subscriber (streams : StreamsAnswer occur) (h : r.Candid)
    (reply : SubscribeSession.Reply) : (r.answer (.subscriber reply)).Candid := by
  unfold Relay.answer
  dsimp only
  split
  · exact h
  · exact h
  · exact (h.note _).moveSubscriber streams _

lemma Candid.answer_publisher (streams : StreamsAnswer occur) (h : r.Candid)
    (reply : PublishSession.Reply) : (r.answer (.publisher reply)).Candid := by
  unfold Relay.answer
  dsimp only
  split
  · exact h
  · exact h
  · exact (h.note _).movePublisher streams _

/-- What is underway longest is delivered. -/
lemma Candid.deliver (streams : StreamsAnswer occur) (h : r.Candid) {d : Delivery}
    {ds : List Delivery} (hu : r.underway = d :: ds) :
    ({ r with underway := ds }.deliver d).Candid := by
  have hrest : ({ r with underway := ds } : Relay ω).Candid :=
    ⟨h.faithful, fun d' hm => h.refusals d' (hu ▸ List.mem_cons_of_mem _ hm)⟩
  cases d with
  | guest number outcome => exact hrest.note _
  | ended side failure => exact hrest.note _
  | answer n a => cases a with
    | subscriber reply => exact hrest.answer_subscriber streams reply
    | publisher reply => exact hrest.answer_publisher streams reply
    | later a =>
      -- The answer is underway anew, and is what it was.
      refine hrest.post fun d' hm => ?_
      rw [List.mem_singleton.mp hm]
      exact h.refusals (.answer n (.later a)) (hu ▸ List.mem_cons_self)

end

end Relay

/-! ## Runs -/

/-- What can happen to a relay whose hand-off others use as well: guests ask for updates and offer
them, with any of the signals. -/
inductive SharedEvent (ε : Type) where
  | relay (event : RelayEvent ε)
  | offer (guest : Nat) (update : Update) (signal : Scope)

namespace WatchedRelay

variable {ω ε : Type} [Endpoints ω]

def sharedStep (occur : ε → ω → Option (List Answer × ω)) (w : WatchedRelay ω) :
    SharedEvent ε → WatchedRelay ω
  | .relay event => w.step occur event
  | .offer guest update signal =>
    { w with relay := w.relay.guestSend guest update signal }

def sharedAfter (occur : ε → ω → Option (List Answer × ω)) (fresh : Relay ω)
    (events : List (SharedEvent ε)) : WatchedRelay ω :=
  events.foldl (sharedStep occur) { relay := fresh }

/-- With what the session of a side is said to have ended. -/
def verdicts (w : WatchedRelay ω) (side : Side) : List Failure :=
  Relay.endsOf side ((w.delivered ++ w.relay.underway).filterMap Delivery.ending?)

/-- Why an event ends the session of a side, if it does. -/
def cause? (w : WatchedRelay ω) (side : Side) : SharedEvent ε → Option EndCause
  | .relay (.start s) =>
    if w.relay.isUnstarted s then Relay.only s (w.relay.startCause? s) side else none
  | .relay .turn =>
    match w.relay.underway with
    | .answer _ a :: _ => w.relay.answerCause? side a
    | _ => none
  | _ => none

variable {occur : ε → ω → Option (List Answer × ω)} {w w' : WatchedRelay ω} {side : Side}
  {cause : EndCause}

omit [Endpoints ω] in
lemma verdicts_eq (w : WatchedRelay ω) (side : Side) : w.verdicts side =
    Relay.endsOf side (w.delivered.filterMap Delivery.ending?) ++
      Relay.endsOf side w.relay.tidings := by
  rw [verdicts, List.filterMap_append, Relay.endsOf_append]
  rfl

/-- What an event does to the sessions, and what becomes known of it. -/
structure Decides (verdict : Side → Option Failure) (w w' : WatchedRelay ω) : Prop where
  failure : ∀ side, w'.relay.failure? side = (w.relay.failure? side <|> verdict side)
  told : ∀ side, w'.verdicts side = w.verdicts side ++ (verdict side).toList

omit [Endpoints ω] in
lemma Decides.of_judges {verdict : Side → Option Failure} (h : w.relay.Judges verdict w'.relay)
    (hd : w'.delivered = w.delivered) : Decides verdict w w' := by
  refine ⟨h.failure, fun side => ?_⟩
  rw [verdicts_eq, verdicts_eq, hd, h.told, List.append_assoc]

omit [Endpoints ω] in
lemma judges_withHandoff (r : Relay ω)
    (result : Handoff Party Scope Update × List (Party × CallOutcome Update)) :
    r.Judges (fun _ => none) (r.withHandoff result) :=
  .of_same rfl rfl (r.tidings_withHandoff result)

/-- What is underway longest is delivered. -/
lemma decides_turn {d : Delivery} {ds : List Delivery} (hu : w.relay.underway = d :: ds)
    {verdict : Side → Option Failure}
    (h : ({ w.relay with underway := ds } : Relay ω).Judges verdict
      ({ w.relay with underway := ds }.deliver d)) :
    Decides verdict w ⟨{ w.relay with underway := ds }.deliver d, w.delivered ++ [d]⟩ := by
  refine ⟨h.failure, fun side => ?_⟩
  have hbefore : w.verdicts side =
      Relay.endsOf side ((w.delivered ++ [d]).filterMap Delivery.ending?) ++
        Relay.endsOf side ({ w.relay with underway := ds } : Relay ω).tidings := by
    rw [verdicts, hu, List.append_cons, List.filterMap_append, Relay.endsOf_append]
    rfl
  rw [hbefore, verdicts_eq, h.told, List.append_assoc]

lemma step_start (hs : w.relay.isUnstarted side = true) :
    w.step occur (.start side) = { w with relay := w.relay.start side } := by
  cases side <;> exact if_pos hs

lemma step_start_again (hs : w.relay.isUnstarted side = false) :
    w.step occur (.start side) = w := by
  cases side <;> exact if_neg (Bool.eq_false_iff.mp hs)

/-- An event ends a session with the failure that tells the cause, and so it becomes known. -/
theorem decides_step (occur : ε → ω → Option (List Answer × ω)) (w : WatchedRelay ω)
    (event : SharedEvent ε) :
    Decides (fun side => (w.cause? side event).map (·.failure w.relay.cancelled?)) w
      (w.sharedStep occur event) := by
  cases event with
  | offer guest update signal => exact .of_judges (judges_withHandoff _ _) rfl
  | relay event => cases event with
    | start s => cases hs : w.relay.isUnstarted s with
      | true =>
        simp only [sharedStep, cause?, step_start hs, hs, if_true, Relay.map_only]
        exact .of_judges (w.relay.judges_start hs) rfl
      | false =>
        simp only [sharedStep, cause?, step_start_again hs, hs, Bool.false_eq_true, if_false]
        exact .of_judges (.of_same rfl rfl rfl) rfl
    | turn =>
      cases hu : w.relay.underway with
      | nil =>
        simp only [sharedStep, step, cause?, hu]
        exact .of_judges (.of_same rfl rfl rfl) rfl
      | cons d ds =>
        simp only [sharedStep, step, cause?, hu]
        cases d with
        | answer n a =>
          exact decides_turn hu (Relay.judges_answer { w.relay with underway := ds } a)
        | guest number outcome => exact decides_turn hu (.of_same rfl rfl rfl)
        | ended s failure => exact decides_turn hu (.of_same rfl rfl rfl)
    | endpoint event =>
      cases he : occur event w.relay.world with
      | none =>
        simp only [sharedStep, step, cause?, Relay.occur?, he, Option.map_none, Option.getD_none]
        exact .of_judges (.of_same rfl rfl rfl) rfl
      | some result =>
        simp only [sharedStep, step, cause?, Relay.occur?, he, Option.map_some, Option.getD_some]
        exact .of_judges (.of_steady (Relay.steady_withWorld _ _)) rfl
    | cancel reason =>
      obtain ⟨hs, hp, ht⟩ := w.relay.cancel_same reason
      exact .of_judges (.of_same hs hp ht) rfl
    | ask guest signal => exact .of_judges (judges_withHandoff _ _) rfl
    | dismiss signal reason => exact .of_judges (judges_withHandoff _ _) rfl

/-- Every event leaves the hand-off to refuse sessions with the reason of their scope. -/
theorem candid_step (streams : StreamsAnswer occur) (h : w.relay.Candid) (event : SharedEvent ε) :
    (w.sharedStep occur event).relay.Candid := by
  cases event with
  | offer guest update signal => exact h.withHandoff (h.faithful.send (by nofun) update)
  | relay event => cases event with
    | start s => cases hs : w.relay.isUnstarted s with
      | true =>
        simp only [sharedStep, step_start hs]
        cases s with
        | subscribe => exact h.startSubscriber streams
        | publish => exact h.startPublisher streams
      | false =>
        simp only [sharedStep, step_start_again hs]
        exact h
    | turn =>
      cases hu : w.relay.underway with
      | nil =>
        simp only [sharedStep, step, hu]
        exact h
      | cons d ds =>
        simp only [sharedStep, step, hu]
        exact h.deliver streams hu
    | endpoint event =>
      cases he : occur event w.relay.world with
      | none => simpa [sharedStep, step, Relay.occur?, he] using h
      | some result =>
        simpa [sharedStep, step, Relay.occur?, he] using
          h.withWorld (streams.occur event _ _ he)
    | cancel reason => exact h.cancel streams reason
    | ask guest signal => exact h.withHandoff (h.faithful.receive (by nofun))
    | dismiss signal reason => exact h.withHandoff (h.faithful.abort (.guest signal) reason)

/-- Which causes an event can have in a scope that is cancelled or not. -/
lemma cause?_cases (h : w.relay.Candid) {event : SharedEvent ε}
    (hc : w.cause? side event = some cause) :
    (∃ call failure, cause = .failed call failure) ∨ cause = .closed ∨
      (∃ reason, w.relay.cancelled? = some reason ∧
        (cause = .cancelledBefore reason ∨ cause = .refused (.cancelled reason))) ∨
      w.relay.cancelled? = none ∧ ∃ failure, cause = .unopened side failure := by
  unfold cause? at hc
  split at hc
  · next s =>
    split at hc
    · obtain ⟨rfl, hstart⟩ : side = s ∧ w.relay.startCause? s = some cause := by
        by_cases hs : side = s <;> simp_all [Relay.only]
      rcases Relay.startCause?_cases hstart with ⟨reason, hr, rfl⟩ | hnone
      · exact Or.inr (Or.inr (Or.inl ⟨reason, hr, Or.inl rfl⟩))
      · exact Or.inr (Or.inr (Or.inr hnone))
    · cases hc
  · split at hc
    · next n a ds hu =>
      rcases Relay.answerCause?_cases hc with hfailed | hclosed | ⟨failure, hf, rfl⟩
      · exact Or.inl hfailed
      · exact Or.inr (Or.inl hclosed)
      · obtain ⟨reason, hr, rfl⟩ := Option.map_eq_some_iff.mp
          (h.refusals (.answer n a) (hu ▸ List.mem_cons_self) failure hf)
        exact Or.inr (Or.inr (Or.inl ⟨reason, hr, Or.inr rfl⟩))
    · cases hc
  · cases hc

/-- In a cancelled scope sessions end with its reason, unless the target closes its stream. -/
lemma failure_of_cancelled (h : w.relay.Candid) {event : SharedEvent ε}
    (hc : w.cause? side event = some cause) {reason : Failure}
    (hr : w.relay.cancelled? = some reason) :
    cause.failure w.relay.cancelled? = .cancelled reason ∨ cause = .closed := by
  rcases cause?_cases h hc with ⟨call, failure, rfl⟩ | rfl | ⟨reason', hr', rfl | rfl⟩ | ⟨hnone, -⟩
  · rw [hr]
    exact Or.inl rfl
  · exact Or.inr rfl
  · obtain rfl := Option.some.inj (hr.symm.trans hr')
    exact Or.inl rfl
  · obtain rfl := Option.some.inj (hr.symm.trans hr')
    exact Or.inl rfl
  · cases hr.symm.trans hnone

/-- In a scope that is not cancelled sessions end by failures of their streams. -/
lemma failure_of_current (h : w.relay.Candid) {event : SharedEvent ε}
    (hc : w.cause? side event = some cause) (hr : w.relay.cancelled? = none) :
    (cause.failure w.relay.cancelled?).IsOfStream := by
  rcases cause?_cases h hc with ⟨call, failure, rfl⟩ | rfl | ⟨reason, hr', -⟩ | ⟨-, failure, rfl⟩
  · rw [hr]
    exact ⟨_, rfl⟩
  · exact ⟨_, rfl⟩
  · cases hr.symm.trans hr'
  · exact ⟨_, rfl⟩

omit [Endpoints ω] in
lemma not_live_of_failure? {r : Relay ω} {failure : Failure}
    (h : r.failure? side = some failure) : r.isLive side = false := by
  by_contra hl
  rw [Bool.not_eq_false] at hl
  cases (Relay.failure?_of_isLive hl).symm.trans h

omit [Endpoints ω] in
lemma not_unstarted_of_failure? {r : Relay ω} {failure : Failure}
    (h : r.failure? side = some failure) : r.isUnstarted side = false := by
  cases side with
  | subscribe =>
    obtain ⟨phase, hs, -⟩ := Option.bind_eq_some_iff.mp h
    simp [Relay.isUnstarted, hs]
  | publish =>
    obtain ⟨phase, hp, -⟩ := Option.bind_eq_some_iff.mp h
    simp [Relay.isUnstarted, hp]

/-- Nothing ends a session twice. -/
lemma cause?_of_ended {failure : Failure} (h : w.relay.failure? side = some failure)
    (event : SharedEvent ε) : w.cause? side event = none := by
  unfold cause?
  split
  · next s =>
    by_cases hs : side = s
    · rw [← hs, not_unstarted_of_failure? h]
      rfl
    · simp [Relay.only, hs]
  · split
    · exact Relay.answerCause?_of_not_live (not_live_of_failure? h) _
    · rfl
  · rfl

/-- A session that starts in a cancelled scope ends with the reason, and opens no stream. -/
lemma start_refused (occur : ε → ω → Option (List Answer × ω))
    (hs : w.relay.isUnstarted side = true) {reason : Failure}
    (hr : w.relay.cancelled? = some reason) :
    let r := (w.sharedStep occur (.relay (.start side))).relay
    r.failure? side = some (.cancelled reason) ∧ r.world = w.relay.world ∧
      r.history = w.relay.history := by
  have hstart : (w.sharedStep occur (.relay (.start side))).relay = w.relay.start side :=
    congrArg relay (step_start hs)
  have hrefused := Relay.start_of_cancelled hr
  rw [hstart]
  cases side with
  | subscribe =>
    rw [Relay.start, hrefused.1]
    exact ⟨rfl, rfl, rfl⟩
  | publish =>
    rw [Relay.start, hrefused.2]
    exact ⟨rfl, rfl, rfl⟩

/-- A session whose stream cannot be opened ends with a failure that says so. -/
lemma start_unopened (occur : ε → ω → Option (List Answer × ω))
    (hs : w.relay.isUnstarted side = true) {failure : Failure}
    (hr : w.relay.cancelled? = none) (ho : w.relay.opening side = .error failure) :
    (w.sharedStep occur (.relay (.start side))).relay.failure? side =
      some (.stream (side.openText ++ failure.message)) := by
  have hnone : w.relay.failure? side = none := by
    cases hf : w.relay.failure? side with
    | none => rfl
    | some ended => cases (not_unstarted_of_failure? hf).symm.trans hs
  have hcause : w.cause? side (.relay (.start side) : SharedEvent ε) =
      some (.unopened side failure) := by
    simp [cause?, hs, Relay.only, Relay.startCause?, hr, ho]
  rw [(decides_step occur w _).failure, hnone, hcause]
  rfl

/-- The hand-off refuses with the reason of the scope. -/
lemma reason_of_refused (h : w.relay.Candid) {event : SharedEvent ε} {failure : Failure}
    (hc : w.cause? side event = some (.refused failure)) :
    w.relay.cancelled?.map Failure.cancelled = some failure := by
  rcases cause?_cases h hc with ⟨call, e, he⟩ | he | ⟨reason, hr, he | he⟩ | ⟨-, e, he⟩
  · cases he
  · cases he
  · cases he
  · cases he
    exact congrArg (Option.map Failure.cancelled) hr
  · cases he

/-- What holds of the ends of sessions after every run. -/
structure Told (w : WatchedRelay ω) : Prop where
  candid : w.relay.Candid
  verdicts : ∀ side, w.verdicts side = (w.relay.failure? side).toList
  canEnd : ∀ side, ∀ failure ∈ w.verdicts side, SubscribeSession.CanEnd failure

theorem Told.step (streams : StreamsAnswer occur) (h : w.Told) (event : SharedEvent ε) :
    (w.sharedStep occur event).Told := by
  have hd := decides_step occur w event
  have hcanEnd : ∀ side, ∀ failure ∈ (w.cause? side event).map (·.failure w.relay.cancelled?),
      SubscribeSession.CanEnd failure := by
    intro side failure hf
    obtain ⟨cause, hc, rfl⟩ := Option.map_eq_some_iff.mp hf
    cases hr : w.relay.cancelled? with
    | none =>
      rw [← hr]
      exact Or.inl (failure_of_current h.candid hc hr)
    | some reason =>
      rcases failure_of_cancelled h.candid hc hr with hcancelled | rfl
      · exact Or.inr ⟨reason, hr ▸ hcancelled⟩
      · exact Or.inl ⟨_, rfl⟩
  refine ⟨candid_step streams h.candid event, fun side => ?_, fun side failure hm => ?_⟩
  · rw [hd.told, hd.failure, h.verdicts]
    cases hf : w.relay.failure? side with
    | none => rfl
    | some failure =>
      rw [cause?_of_ended hf]
      rfl
  · rw [hd.told] at hm
    rcases List.mem_append.mp hm with hm | hm
    · exact h.canEnd side failure hm
    · exact hcanEnd side failure (Option.mem_toList.mp hm)

theorem told_after (streams : StreamsAnswer occur) (number : Nat) (world : ω)
    (request : SubscribeRequest) (metadata : Option Login) (events : List (SharedEvent ε)) :
    (sharedAfter occur { number, world, request, metadata } events).Told := by
  induction events using List.reverseRecOn with
  | nil =>
    refine ⟨⟨by nofun, by nofun⟩, fun side => by cases side <;> rfl, fun side failure hm => ?_⟩
    cases hm
  | append_singleton events event ih =>
    rw [sharedAfter, List.foldl_append]
    exact ih.step streams event

/-- How a session ends tells why, for all streams, users of the hand-off and signals. An event ends
a session only for a cause, and with the failure that tells it, and that becomes known once. A
session that starts in a cancelled scope ends with the reason and opens no stream, and one whose
stream cannot be opened fails. In a cancelled scope a session ends with the reason of the
cancellation, unless the target closes its stream; in any other it ends by a failure of its stream.
-/
theorem ends_tell_cause (streams : StreamsAnswer occur) (number : Nat) (world : ω)
    (request : SubscribeRequest) (metadata : Option Login) (events : List (SharedEvent ε)) :
    let w := sharedAfter occur { number, world, request, metadata } events
    let aborted := w.relay.cancelled?
    (∀ side, w.verdicts side = (w.relay.failure? side).toList ∧
      ∀ failure ∈ w.verdicts side, SubscribeSession.CanEnd failure) ∧
    (∀ (event : SharedEvent ε) (side : Side), (w.sharedStep occur event).relay.failure? side =
      (w.relay.failure? side <|> (w.cause? side event).map (·.failure aborted))) ∧
    (∀ side, w.relay.isUnstarted side = true →
      let r := (w.sharedStep occur (.relay (.start side))).relay
      (∀ reason, aborted = some reason →
        r.failure? side = some (.cancelled reason) ∧ r.world = w.relay.world ∧
          r.history = w.relay.history) ∧
      ∀ failure, aborted = none → w.relay.opening side = .error failure →
        r.failure? side = some (.stream (side.openText ++ failure.message))) ∧
    ∀ (event : SharedEvent ε) (side : Side) (cause : EndCause), w.cause? side event = some cause →
      w.relay.failure? side = none ∧
      (∀ failure, cause = .refused failure → aborted.map Failure.cancelled = some failure) ∧
      (∀ reason, aborted = some reason →
        cause.failure aborted = .cancelled reason ∨ cause = .closed) ∧
      (aborted = none → (cause.failure aborted).IsOfStream) := by
  intro w aborted
  have h : w.Told := told_after streams number world request metadata events
  refine ⟨fun side => ⟨h.verdicts side, h.canEnd side⟩,
    fun event side => (decides_step occur w event).failure side,
    fun side hs => ⟨fun reason hr => start_refused occur hs hr,
      fun failure hr ho => start_unopened occur hs hr ho⟩,
    fun event side cause hc => ⟨?_, ?_, fun reason hr => failure_of_cancelled h.candid hc hr,
      failure_of_current h.candid hc⟩⟩
  · cases hf : w.relay.failure? side with
    | none => rfl
    | some failure => cases (cause?_of_ended hf event).symm.trans hc
  · rintro failure rfl
    exact reason_of_refused h.candid hc

/-- Streams that ignore the cancellation of their scope. An update is refused by the collector after
it, which counts as cancellation; that the target closes its stream does not. -/
theorem ends_after_cancellation :
    let w := sharedAfter Scripted.occur
      { world := {
          script := { autoRequest := true, ignoreSubscribe := true, ignorePublish := true } }
        request := ⟨"", []⟩, metadata := none }
      [.relay (.start .subscribe), .relay (.start .publish), .offer 0 [1] (.guest 0), .relay .turn,
        .relay .turn, .relay .turn, .relay (.cancel (.error "stop")),
        .relay (.endpoint (.sendError "refused")), .relay (.endpoint (.arrive [.close])),
        .relay .turn, .relay .turn]
    w.verdicts .subscribe = [.stream "subscription stream closed by target"] ∧
      w.verdicts .publish = [.cancelled (.error "stop")] := by
  intro w
  have hverdicts := (ends_tell_cause Scripted.streamsAnswer 0
    { script := { autoRequest := true, ignoreSubscribe := true, ignorePublish := true } }
    ⟨"", []⟩ none
    [.relay (.start .subscribe), .relay (.start .publish), .offer 0 [1] (.guest 0), .relay .turn,
      .relay .turn, .relay .turn, .relay (.cancel (.error "stop")),
      .relay (.endpoint (.sendError "refused")), .relay (.endpoint (.arrive [.close])),
      .relay .turn, .relay .turn]).1
  exact ⟨(hverdicts .subscribe).1, (hverdicts .publish).1⟩

end WatchedRelay

end TelemetryBridge
