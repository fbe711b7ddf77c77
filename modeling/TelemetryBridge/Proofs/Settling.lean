import Mathlib.Algebra.GroupWithZero.Nat
import TelemetryBridge.Proofs.PlacesKept

/-!
# Coming to rest

Every delivery lowers `Relay.remaining`, a count of the deliveries that are still to come. The bridge
makes at least as many deliveries as that when it settles, so that it comes to rest.
-/

namespace TelemetryBridge

/-- The deliveries that a hand-off can lead to: an update that waits is taken, or all is cancelled. -/
def Handoff.remaining (h : Handoff Party Scope Update) : Nat :=
  6 * h.senders.length + if (h.reason? .session).isSome then 0 else 12

namespace Channel

variable (n : Nat)

lemma remaining_idle : (idle.handoff n).remaining = 12 := rfl

lemma remaining_offering (update : Update) : ((offering update).handoff n).remaining = 18 := rfl

lemma remaining_asking : (asking.handoff n).remaining = 12 := rfl

lemma remaining_closed (reason : Failure) : ((closed reason).handoff n).remaining = 0 := rfl

end Channel

namespace Relay

/-- The deliveries that can be made before the next event: like `Relay.work`, but without the
cancellation of sessions that are cancelled already. -/
def remaining (r : Relay Scripted) : Nat :=
  (r.underway.map deliveryWork).sum + 10 * Endpoints.backlog r.world + r.handoff.remaining

lemma remaining_le_work (r : Relay Scripted) : r.remaining ≤ r.work := by
  have hs : (r.underway.map deliveryWork).foldr (· + ·) 0 = (r.underway.map deliveryWork).sum := rfl
  unfold remaining work Handoff.remaining
  rw [hs]
  split <;> omega

lemma answerWork_pos (a : Answer) : 0 < answerWork a := by
  induction a with
  | subscriber reply => unfold answerWork; split <;> simp_all
  | publisher reply => unfold answerWork; split <;> simp_all
  | later a ih => exact Nat.succ_pos _

lemma deliveryWork_pos (d : Delivery) : 0 < deliveryWork d := by
  cases d with
  | answer n a => exact answerWork_pos a
  | guest n outcome => exact Nat.one_pos
  | ended side failure => exact Nat.one_pos

lemma answerWork_received (item : StreamItem) :
    answerWork (.subscriber (.received item.result)) ≤ 9 := by
  cases item <;> simp [StreamItem.result, answerWork]

lemma answerWork_of_asks {phase : SubscribeSession.Phase} {reply : SubscribeSession.Reply}
    (h : SubscribeSession.Asks phase reply) : answerWork (.subscriber reply) = 4 := by
  rcases h with ⟨-, rfl⟩ | ⟨update, -, rfl⟩ <;> rfl

lemma answerWork_of_subscriber_fails {phase : SubscribeSession.Phase}
    {reply : SubscribeSession.Reply} (h : SubscribeSession.Fails phase reply) :
    2 ≤ answerWork (.subscriber reply) := by
  cases h <;> simp [answerWork]

lemma answerWork_of_publisher_fails {phase : PublishSession.Phase} {reply : PublishSession.Reply}
    (h : PublishSession.Fails phase reply) : 2 ≤ answerWork (.publisher reply) := by
  cases h <;> simp [answerWork]

lemma remaining_answered {r r' : Relay Scripted} {a : Answer} (h : r.Answered a r') :
    r'.remaining < r.remaining + answerWork a := by
  cases h with
  | served phase reply ns s item queue current asks offers stream front =>
    have := answerWork_of_asks asks
    have := answerWork_received item
    simp [remaining, Endpoints.backlog, stream, front, deliveryWork]
    omega
  | unserved phase reply ns s failure current asks offers stream drained =>
    have := answerWork_of_asks asks
    simp [remaining, deliveryWork, answerWork]
    omega
  | waits phase reply ns s current asks offers stream drained may =>
    have := answerWork_of_asks asks
    simp [remaining, Endpoints.backlog, stream]
    omega
  | held update ns current offers free =>
    rw [remaining, remaining, free, Channel.remaining_idle]
    change _ + _ + Handoff.remaining (Channel.handoff r.number (.offering update)) < _
    rw [Channel.remaining_offering]
    simp [answerWork]
  | handed update ns current offers asked =>
    rw [remaining, remaining, asked, Channel.remaining_asking]
    change _ + _ + Handoff.remaining (Channel.handoff r.number .idle) < _
    rw [Channel.remaining_idle]
    simp [deliveryWork, answerWork]
    omega
  | refused update ns reason current offers closed =>
    simp [remaining, deliveryWork, answerWork]
    omega
  | subscriberEnds phase reply ns failure current fails offers =>
    have := answerWork_of_subscriber_fails fails
    cases hs : r.world.subscribe <;> simp [remaining, Endpoints.backlog, hs, deliveryWork] <;> omega
  | accepted update ns current offers =>
    simp [remaining, Endpoints.backlog, deliveryWork, answerWork]
    omega
  | unaccepted update ns failure current offers =>
    simp [remaining, deliveryWork, answerWork]
    omega
  | sends update ns p current offers stream may =>
    simp [remaining, Endpoints.backlog, answerWork]
  | asks update ns current offers free =>
    rw [remaining, remaining, free, Channel.remaining_idle]
    change _ + _ + Handoff.remaining (Channel.handoff r.number .asking) < _
    rw [Channel.remaining_asking]
    simp [answerWork]
  | takes update next ns current offers offered =>
    rw [remaining, remaining, offered, Channel.remaining_offering]
    change _ + _ + Handoff.remaining (Channel.handoff r.number .idle) < _
    rw [Channel.remaining_idle]
    simp [deliveryWork, answerWork]
    omega
  | barred update ns reason current offers closed =>
    simp [remaining, deliveryWork, answerWork]
    omega
  | publisherEnds phase reply ns failure current fails offers =>
    have := answerWork_of_publisher_fails fails
    simp [remaining, Endpoints.backlog, deliveryWork]
    omega

/-- Cancellation is counted in advance. -/
lemma remaining_cancel {r : Relay Scripted} (h : r.Placed) (reason : Failure) :
    (r.cancel reason).remaining ≤ r.remaining := by
  cases hn : r.isCancelled with
  | true => exact Nat.le_of_eq (by rw [cancel_of_isCancelled hn])
  | false =>
    obtain ⟨c, hc⟩ := h.channel
    have hs : ((r.world.subscriberCut.map fun x => Delivery.answer r.number (.subscriber x)).map
        deliveryWork).sum ≤ 4 := by
      unfold Scripted.subscriberCut
      split
      · simp
      · split <;> simp [deliveryWork, answerWork]
    have hp : ((r.world.publisherCut.map fun x => Delivery.answer r.number (.publisher x)).map
        deliveryWork).sum ≤ 3 := by
      unfold Scripted.publisherCut
      split
      · simp
      · split <;> simp [deliveryWork, answerWork]
    have hw : (((c.waiting r.number).map fun call => outcomeDelivery (call, .cancelled reason)).map
        deliveryWork).sum ≤ 4 := by
      cases c <;> simp [Channel.waiting, outcomeDelivery, deliveryWork, answerWork]
    have hb : Endpoints.backlog r.world.cut = Endpoints.backlog r.world := by
      cases hs : r.world.subscribe <;> simp [Endpoints.backlog, Scripted.cut, hs]
    have hopen : 12 ≤ r.handoff.remaining := by
      have : ((r.handoff.reason? .session).isSome) = false := hn
      unfold Handoff.remaining
      rw [this]
      simp
    rw [cancel_eq hc hn, remaining, remaining]
    change _ + _ + Handoff.remaining (Channel.handoff r.number (.closed reason)) ≤ _
    rw [Channel.remaining_closed, hb, List.map_append, List.sum_append, cut, List.map_append,
      List.map_append, List.sum_append, List.sum_append]
    omega

end Relay

namespace Bridge

lemma remaining_hear {b : Bridge Scripted} (h : b.relay.Placed) {side : Side} {failure : Failure}
    {rest : List Delivery} (hu : b.relay.underway = .ended side failure :: rest) :
    (b.hear side failure rest).relay.remaining < b.relay.remaining := by
  have hc := Relay.remaining_cancel ((h.of_ended hu).note (.sessionEnded side failure)) failure
  have hlt : ({ b.relay with underway := rest }.note (.sessionEnded side failure)).remaining <
      b.relay.remaining := by
    unfold Relay.remaining
    rw [hu]
    simp [Relay.note, Relay.deliveryWork]
  exact Nat.lt_of_le_of_lt hc hlt

lemma remaining_turn {b : Bridge Scripted} (h : b.relay.Placed) (hu : ¬ b.AtRest) :
    (b.step Scripted.occur .turn).relay.remaining < b.relay.remaining := by
  have ht := step_transition Scripted.occur b .turn
  generalize b.step Scripted.occur .turn = b' at ht
  cases ht with
  | still _ idle => exact absurd (idle rfl) hu
  | answered n a rest first =>
    have := Relay.remaining_answered (h.answered first)
    refine Nat.lt_of_lt_of_le this ?_
    unfold Relay.remaining
    rw [first]
    simp [Relay.deliveryWork]
    omega
  | guestAnswered number outcome rest first =>
    have := h.plain _ (first ▸ List.mem_cons_self)
    cases this
  | rejected side failure rest first left => exact remaining_hear h first
  | joinedStopped side failure rest run first last current stopped => exact remaining_hear h first
  | joinedFailed side failure rest run first last current going => exact remaining_hear h first

lemma atRest_of_remaining {b : Bridge Scripted} (h : b.relay.remaining = 0) : b.AtRest := by
  unfold Relay.remaining at h
  rcases hu : b.relay.underway with _ | ⟨d, rest⟩
  · exact hu
  · have := Relay.deliveryWork_pos d
    rw [hu, List.map_cons, List.sum_cons] at h
    omega

lemma atRest_turns {b : Bridge Scripted} (hb : b.Lifecycle) (h : b.relay.Placed) {n : Nat}
    (hn : b.relay.remaining ≤ n) : (b.turns n).AtRest := by
  induction n generalizing b with
  | zero => exact atRest_of_remaining (Nat.le_zero.mp hn)
  | succ n ih =>
    by_cases hu : b.AtRest
    · have hnone : b.turn? = none := by
        unfold turn?
        rw [hu]
      unfold turns
      rw [hnone]
      exact hu
    · have hlt := remaining_turn h hu
      obtain ⟨b', hb'⟩ : ∃ b', b.turn? = some b' := by
        unfold AtRest at hu
        unfold turn?
        split
        · next hnil => exact absurd hnil hu
        · exact ⟨_, rfl⟩
      have hstep : b.step Scripted.occur .turn = b' := by simp [step, hb']
      unfold turns
      rw [hb']
      dsimp only
      rw [← hstep]
      exact ih (hb.step _ _) (placed_step hb h _) (by omega)

/-- Settling brings the bridge to rest. -/
theorem atRest_settle {b : Bridge Scripted} (hb : b.Lifecycle) (h : b.relay.Placed) :
    b.settle.AtRest :=
  atRest_turns hb h b.relay.remaining_le_work

end Bridge

end TelemetryBridge
