import TelemetryBridge.Proofs.PublisherRounds
import TelemetryBridge.Proofs.SubscriberView

/-!
# What a publish session sees

The deliveries and the hand-off of a relay, as far as they concern its publish session. Guests offer
updates, and each offer is known by its place in the list of all of them. Whatever the guests do,
and whoever aborts a signal, the session stays where it is in its rounds, or is handed an update, or
its call is cancelled.
-/

namespace TelemetryBridge

open PublishSession

namespace Party

def isPublisher : Party → Bool
  | publisher _ => true
  | _ => false

/-- The number of a guest. -/
def number? : Party → Option Nat
  | guest number => some number
  | _ => none

end Party

namespace Delivery

/-- The reply of the hand-off to a publish session. -/
def handed? : Delivery → Option (Except Failure Update)
  | answer _ (.publisher (.taken result)) => some result
  | _ => none

/-- The guest whose offer has been fulfilled. -/
def fulfilled? : Delivery → Option Nat
  | guest number .sent => some number
  | _ => none

/-- The failure with which a publish session has ended. -/
def publisherEnd? : Delivery → Option Failure
  | ended .publish failure => some failure
  | _ => none

lemma handed?_of_isOfStream {n : Nat} {a : Answer} (h : a.isOfStream = true) :
    (answer n a).handed? = none := by
  cases a with
  | publisher reply => cases reply with
    | taken result => cases h
    | sent result => rfl
  | subscriber reply => rfl
  | later a => rfl

lemma handed?_cancelled (call : Party) (reason : Failure) :
    (Relay.outcomeDelivery (call, .cancelled reason)).handed? =
      if call.isPublisher then some (.error (.cancelled reason)) else none := by
  cases call <;> rfl

lemma fulfilled?_cancelled (call : Party) (reason : Failure) :
    (Relay.outcomeDelivery (call, .cancelled reason)).fulfilled? = none := by
  cases call <;> rfl

lemma publisherEnd?_outcomeDelivery (result : Party × CallOutcome Update) :
    (Relay.outcomeDelivery result).publisherEnd? = none := by
  obtain ⟨call, outcome⟩ := result
  cases call <;> cases outcome <;> rfl

end Delivery

namespace Handoff

variable {n : Nat} {offers : List Update} {h : Handoff Party Scope Update}

/-- The places of the offers that wait. -/
def offering (h : Handoff Party Scope Update) : List Nat := h.senders.filterMap (·.call.number?)

/-- Guests offer the updates of a list, each under its place there. Nobody asks for them but the
publish session of the relay with the given number, one call at a time. -/
structure Offers (n : Nat) (offers : List Update) (h : Handoff Party Scope Update) : Prop where
  attentive : h.Attentive
  oneSided : h.senders = [] ∨ h.receivers = []
  senders : ∀ w ∈ h.senders, ∃ place, w.call = .guest place ∧ offers[place]? = some w.value
  distinct : h.offering.Nodup
  receivers : h.receivers = [] ∨ h.receivers = [⟨.publisher n, .session⟩]

lemma Offers.map_call (ho : h.Offers n offers) :
    h.senders.map (·.call) = h.offering.map .guest := by
  rw [offering, List.map_filterMap, ← List.filterMap_eq_map]
  apply List.filterMap_congr
  intro w hw
  obtain ⟨place, hcall, -⟩ := ho.senders w hw
  simp [hcall, Party.number?]

lemma Offers.callers_nodup (ho : h.Offers n offers) : (h.waiting.map (·.2)).Nodup := by
  rcases ho.receivers with hr | hr
  · have hw : h.waiting.map (·.2) = h.senders.map (·.call) := by simp [waiting, hr]
    rw [hw, ho.map_call]
    exact ho.distinct.map fun _ _ => Party.guest.inj
  · have hs : h.senders = [] := by simpa [hr] using ho.oneSided
    simp [waiting, hs, hr]

/-- Whoever waits for an update is the session, and then no offer waits. -/
lemma Offers.first_receiver (ho : h.Offers n offers) {w : WaitingReceive Party Scope}
    {rest : List (WaitingReceive Party Scope)} (first : h.receivers = w :: rest) :
    w = ⟨.publisher n, .session⟩ ∧ rest = [] ∧ h.senders = [] := by
  have hs : h.senders = [] := by simpa [first] using ho.oneSided
  rcases ho.receivers with hr | hr <;> rw [first] at hr <;> cases hr
  exact ⟨rfl, rfl, hs⟩

lemma offering_snoc {senders : List (WaitingSend Party Scope Update)}
    {w : WaitingSend Party Scope Update} {place : Nat} (hw : w.call.number? = some place) :
    (senders ++ [w]).filterMap (·.call.number?) =
      senders.filterMap (·.call.number?) ++ [place] := by
  simp [hw]

/-- More offers can be made. -/
lemma Offers.grow (ho : h.Offers n offers) (more : List Update) :
    h.Offers n (offers ++ more) where
  attentive := ho.attentive
  oneSided := ho.oneSided
  senders w hw := by
    obtain ⟨place, hcall, hvalue⟩ := ho.senders w hw
    have hlt := (List.getElem?_eq_some_iff.mp hvalue).1
    exact ⟨place, hcall, (List.getElem?_append_left hlt).trans hvalue⟩
  distinct := ho.distinct
  receivers := ho.receivers

lemma Offers.receive (ho : h.Offers n offers) (free : h.receivers = []) :
    (h.receive (.publisher n) .session).1.Offers n offers := by
  have hattentive :=
    ho.attentive.receive ho.oneSided ho.callers_nodup.of_map (.publisher n) .session
  rcases h.receive_cases (.publisher n) .session with
    ⟨reason, he⟩ | ⟨w, rest, first, he⟩ | ⟨nobody, he⟩ <;> rw [he] at hattentive ⊢
  · exact ho
  · have hrest : rest.Sublist h.senders := first ▸ List.sublist_cons_self w rest
    exact ⟨hattentive, Or.inr free, fun w' hw' => ho.senders w' (hrest.mem hw'),
      ho.distinct.sublist (hrest.filterMap _), Or.inl free⟩
  · exact ⟨hattentive, Or.inl nobody, ho.senders, ho.distinct, Or.inr (by simp [free])⟩

lemma Offers.send (ho : h.Offers n offers) {place : Nat} (fresh : place ∉ h.offering)
    {update : Update} (hp : offers[place]? = some update) (signal : Scope) :
    (h.send (.guest place) update signal).1.Offers n offers := by
  have hattentive :=
    ho.attentive.send ho.oneSided ho.callers_nodup.of_map (.guest place) update signal
  rcases h.send_cases (.guest place) update signal with
    ⟨reason, he⟩ | ⟨w, rest, first, he⟩ | ⟨nobody, he⟩ <;> rw [he] at hattentive ⊢
  · exact ho
  · obtain ⟨-, hrest, -⟩ := ho.first_receiver first
    exact ⟨hattentive, Or.inr hrest, ho.senders, ho.distinct, Or.inl hrest⟩
  · refine ⟨hattentive, Or.inr nobody, fun w hw => ?_, ?_, Or.inl nobody⟩
    · rcases List.mem_append.mp hw with hw | hw
      · exact ho.senders w hw
      · obtain rfl := List.mem_singleton.mp hw
        exact ⟨place, rfl, hp⟩
    · change ((h.senders ++ [_]).filterMap _).Nodup
      rw [offering_snoc rfl]
      exact List.concat_eq_append ▸ ho.distinct.concat fresh

/-- The session takes the offer that waits longest, or none. -/
lemma Offers.places_receive (ho : h.Offers n offers) :
    ((h.receive (.publisher n) .session).2.filterMap
      (fun x => (Relay.outcomeDelivery x).fulfilled?) ++
        (h.receive (.publisher n) .session).1.offering).Sublist h.offering := by
  rcases h.receive_cases (.publisher n) .session with
    ⟨reason, he⟩ | ⟨w, rest, first, he⟩ | ⟨nobody, he⟩ <;> rw [he]
  · exact List.Sublist.refl _
  · obtain ⟨place, hcall, -⟩ := ho.senders w (first ▸ List.mem_cons_self)
    have hplace : w.call.number? = some place := by
      rw [hcall]
      rfl
    have hoffering : h.offering = place :: rest.filterMap (·.call.number?) := by
      rw [offering, first]
      exact List.filterMap_cons_some hplace
    rw [hoffering, hcall]
    exact List.Sublist.refl _
  · exact List.Sublist.refl _

/-- An offer is fulfilled at once, or waits behind all others, or is refused. -/
lemma Offers.places_send (ho : h.Offers n offers) (place : Nat) (update : Update)
    (signal : Scope) :
    ((h.send (.guest place) update signal).2.filterMap
      (fun x => (Relay.outcomeDelivery x).fulfilled?) ++
        (h.send (.guest place) update signal).1.offering).Sublist (h.offering ++ [place]) := by
  rcases h.send_cases (.guest place) update signal with
    ⟨reason, he⟩ | ⟨w, rest, first, he⟩ | ⟨nobody, he⟩ <;> rw [he]
  · exact List.sublist_append_left _ _
  · obtain ⟨hw, -, hs⟩ := ho.first_receiver first
    rw [offering, offering, hs, hw]
    exact List.Sublist.refl _
  · change ((h.senders ++ [_]).filterMap _).Sublist _
    rw [offering_snoc rfl]
    exact List.Sublist.refl _

/-- The offers that wait after an abort waited before. -/
lemma Offers.offering_abort (ho : h.Offers n offers) (signal : Scope) (reason : Failure) :
    (h.abort signal reason).1.offering.Sublist h.offering := by
  cases hr : h.reason? signal with
  | some old => rw [abort_of_aborted hr]
  | none =>
    rw [offering, senders_abort (.of_eq ho.attentive.listeners) ho.callers_nodup hr]
    exact List.filter_sublist.filterMap _

lemma Offers.abort (ho : h.Offers n offers) (signal : Scope) (reason : Failure) :
    (h.abort signal reason).1.Offers n offers := by
  cases hr : h.reason? signal with
  | some old =>
    rw [abort_of_aborted hr]
    exact ho
  | none =>
    have hsenders := senders_abort (.of_eq ho.attentive.listeners) ho.callers_nodup hr reason
    have hreceivers := receivers_abort (.of_eq ho.attentive.listeners) ho.callers_nodup hr reason
    refine ⟨ho.attentive.abort ho.callers_nodup signal reason, ?_, fun w hw => ?_,
      ho.distinct.sublist (ho.offering_abort signal reason), ?_⟩
    · rw [hsenders, hreceivers]
      rcases ho.oneSided with hnone | hnone <;> simp [hnone]
    · rw [hsenders] at hw
      exact ho.senders w (List.mem_of_mem_filter hw)
    · rw [hreceivers]
      rcases ho.receivers with hw | hw
      · simp [hw]
      · cases signal <;> simp [hw]

/-- Guests are told of the end of their offers. The session is told of the end of its call. -/
lemma Offers.handed_abort (ho : h.Offers n offers) (signal : Scope) (reason : Failure) :
    ((h.listening signal).map fun call => (call, .cancelled reason)).filterMap
        (fun x => (Relay.outcomeDelivery x).handed?) =
      (h.receivers.filter (·.signal = signal)).map fun _ => .error (.cancelled reason) := by
  rw [List.filterMap_map, ho.attentive.listening, waitingWith]
  rcases ho.receivers with hr | hr
  · rw [hr]
    refine List.filterMap_eq_nil_iff.mpr fun call hc => ?_
    obtain ⟨x, hx, rfl⟩ := List.mem_map.mp hc
    obtain ⟨hx, -⟩ := List.mem_filter.mp hx
    obtain ⟨w, hw, rfl⟩ : ∃ w ∈ h.senders, (w.signal, w.call) = x := by
      simpa [waiting, hr] using hx
    obtain ⟨place, hcall, -⟩ := ho.senders w hw
    simp [hcall, Delivery.handed?_cancelled, Party.isPublisher]
  · have hs : h.senders = [] := by simpa [hr] using ho.oneSided
    cases signal <;> simp [waiting, hs, hr, Delivery.handed?_cancelled, Party.isPublisher]

end Handoff

namespace Relay

variable {ω : Type}

/-- The places of the offers that have been fulfilled, where some deliveries have been made. -/
def fulfilled (delivered : List Delivery) (r : Relay ω) : List Nat :=
  (delivered ++ r.underway).filterMap Delivery.fulfilled?

/-- What is seen of the publish session of a relay to which updates are offered. -/
def publishView (offers : List Update) (delivered : List Delivery) (r : Relay ω) : View where
  phase := r.publisher
  talk := conversation r.history
  receivers := r.handoff.receivers
  taken := r.underway.filterMap Delivery.handed?
  given := (r.fulfilled delivered).filterMap (offers[·]?)
  ends := (delivered ++ r.underway).filterMap Delivery.publisherEnd?

/-- Updates come to a relay from guests alone. Their offers are fulfilled in the order in which they
were made. -/
structure Supplied (n : Nat) (offers : List Update) (delivered : List Delivery) (r : Relay ω) :
    Prop where
  number : r.number = n
  alone : r.subscriber = none
  queue : r.handoff.Offers n offers
  -- The place of the next offer comes last: all others are below it.
  order : (r.fulfilled delivered ++ r.handoff.offering ++ [offers.length]).Pairwise (· < ·)
  late : ∀ m a, .answer m (.later a) ∈ r.underway → a.isOfStream = true

/-- The publish session keeps to its rounds. -/
structure PublishesInRounds (n : Nat) (offers : List Update) (delivered : List Delivery)
    (r : Relay ω) : Prop extends r.Supplied n offers delivered where
  stage : Stage n (r.publishView offers delivered)

section

variable {n : Nat} {offers : List Update} {delivered : List Delivery} {r : Relay ω}

lemma publishView_note (r : Relay ω) (note : Note) : (r.note note).publishView offers delivered =
    { r.publishView offers delivered with
      talk := hear (r.publishView offers delivered).talk note } := by
  simp [publishView, fulfilled, Relay.note, conversation]

lemma fulfilled_post (r : Relay ω) (ds : List Delivery) : (r.post ds).fulfilled delivered =
    r.fulfilled delivered ++ ds.filterMap Delivery.fulfilled? := by
  simp [fulfilled, post]

lemma publishView_post (r : Relay ω) (ds : List Delivery) :
    (r.post ds).publishView offers delivered = { r.publishView offers delivered with
      taken := (r.publishView offers delivered).taken ++ ds.filterMap Delivery.handed?
      given := (r.publishView offers delivered).given ++
        (ds.filterMap Delivery.fulfilled?).filterMap (offers[·]?)
      ends := (r.publishView offers delivered).ends ++
        ds.filterMap Delivery.publisherEnd? } := by
  simp [publishView, fulfilled, post]

/-- Other deliveries go unseen. -/
lemma publishView_post_same (r : Relay ω) {ds : List Delivery}
    (ht : ds.filterMap Delivery.handed? = []) (hf : ds.filterMap Delivery.fulfilled? = [])
    (he : ds.filterMap Delivery.publisherEnd? = []) :
    (r.post ds).publishView offers delivered = r.publishView offers delivered := by
  rw [publishView_post, ht, hf, he, List.filterMap_nil, List.append_nil, List.append_nil,
    List.append_nil]

lemma Supplied.post (h : r.Supplied n offers delivered) {ds : List Delivery}
    (hf : ds.filterMap Delivery.fulfilled? = [])
    (late : ∀ m a, .answer m (.later a) ∈ ds → a.isOfStream = true) :
    (r.post ds).Supplied n offers delivered where
  number := h.number
  alone := h.alone
  queue := h.queue
  order := by
    rw [fulfilled_post, hf, List.append_nil]
    exact h.order
  late m a hm := by
    rcases List.mem_append.mp hm with hm | hm
    · exact h.late m a hm
    · exact late m a hm

lemma Supplied.note (h : r.Supplied n offers delivered) (note : Note) :
    (r.note note).Supplied n offers delivered :=
  ⟨h.number, h.alone, h.queue, h.order, h.late⟩

/-- Streams answer for themselves. -/
lemma publishView_withWorld (r : Relay ω) {result : List Answer × ω}
    (hs : ∀ a ∈ result.1, a.isOfStream = true) :
    (r.withWorld result).publishView offers delivered = r.publishView offers delivered := by
  rw [withWorld, publishView_post_same]
  · rfl
  · rw [List.filterMap_map]
    exact List.filterMap_eq_nil_iff.mpr fun a ha => Delivery.handed?_of_isOfStream (hs a ha)
  · rw [List.filterMap_map]
    exact List.filterMap_eq_nil_iff.mpr fun _ _ => rfl
  · rw [List.filterMap_map]
    exact List.filterMap_eq_nil_iff.mpr fun _ _ => rfl

lemma Supplied.withWorld (h : r.Supplied n offers delivered) {result : List Answer × ω}
    (hs : ∀ a ∈ result.1, a.isOfStream = true) :
    (r.withWorld result).Supplied n offers delivered := by
  have hw : ({ r with world := result.2 } : Relay ω).Supplied n offers delivered :=
    ⟨h.number, h.alone, h.queue, h.order, h.late⟩
  apply hw.post
  · rw [List.filterMap_map]
    exact List.filterMap_eq_nil_iff.mpr fun _ _ => rfl
  · exact fun _ _ hm => Delivery.isOfStream_of_late hs hm

/-- The hand-off fulfils some of the offers, in their order. -/
lemma Supplied.withHandoff (h : r.Supplied n offers delivered) {more : List Update}
    {result : Handoff Party Scope Update × List (Party × CallOutcome Update)}
    (hqueue : result.1.Offers n (offers ++ more)) {waiting : List Nat}
    (hsub : (result.2.filterMap (fun x => (outcomeDelivery x).fulfilled?) ++
      result.1.offering).Sublist waiting)
    (horder : (r.fulfilled delivered ++ waiting ++ [(offers ++ more).length]).Pairwise (· < ·)) :
    (r.withHandoff result).Supplied n (offers ++ more) delivered where
  number := h.number
  alone := h.alone
  queue := hqueue
  order := by
    have hfulfilled : (r.withHandoff result).fulfilled delivered = r.fulfilled delivered ++
        result.2.filterMap (fun x => (outcomeDelivery x).fulfilled?) := by
      rw [Relay.withHandoff, fulfilled_post, List.filterMap_map]
      rfl
    rw [hfulfilled, List.append_assoc (r.fulfilled delivered)]
    exact horder.sublist ((hsub.append_left _).append_right _)
  late m a hm := by
    rcases List.mem_append.mp hm with hm | hm
    · exact h.late m a hm
    · exact absurd hm (Delivery.late_outcomeDelivery _ m a)

/-- No new offer is made. -/
lemma Supplied.served (h : r.Supplied n offers delivered)
    {result : Handoff Party Scope Update × List (Party × CallOutcome Update)}
    (hqueue : result.1.Offers n offers)
    (hsub : (result.2.filterMap (fun x => (outcomeDelivery x).fulfilled?) ++
      result.1.offering).Sublist r.handoff.offering) :
    (r.withHandoff result).Supplied n offers delivered := by
  rw [← List.append_nil offers] at hqueue ⊢
  exact h.withHandoff hqueue hsub (by simpa using h.order)

lemma publishView_withHandoff (r : Relay ω)
    {result : Handoff Party Scope Update × List (Party × CallOutcome Update)}
    {taken : List (Except Failure Update)} {places : List Nat}
    (ht : result.2.filterMap (fun x => (outcomeDelivery x).handed?) = taken)
    (hf : result.2.filterMap (fun x => (outcomeDelivery x).fulfilled?) = places) :
    (r.withHandoff result).publishView offers delivered =
      { r.publishView offers delivered with
        receivers := result.1.receivers
        taken := (r.publishView offers delivered).taken ++ taken
        given := (r.publishView offers delivered).given ++ places.filterMap (offers[·]?) } := by
  have he : (result.2.map outcomeDelivery).filterMap Delivery.publisherEnd? = [] := by
    rw [List.filterMap_map]
    exact List.filterMap_eq_nil_iff.mpr fun x _ => Delivery.publisherEnd?_outcomeDelivery x
  rw [withHandoff, publishView_post, he, List.append_nil, List.filterMap_map, List.filterMap_map,
    ← ht, ← hf]
  rfl

/-- The hand-off says nothing that concerns a publish session. -/
lemma publishView_withHandoff_same (r : Relay ω)
    {result : Handoff Party Scope Update × List (Party × CallOutcome Update)}
    (hr : result.1.receivers = r.handoff.receivers)
    (ht : result.2.filterMap (fun x => (outcomeDelivery x).handed?) = [])
    (hf : result.2.filterMap (fun x => (outcomeDelivery x).fulfilled?) = []) :
    (r.withHandoff result).publishView offers delivered = r.publishView offers delivered := by
  rw [publishView_withHandoff r ht hf, hr, List.append_nil, List.filterMap_nil, List.append_nil]
  rfl

/-- What is underway longest is delivered now. -/
lemma publishView_underway (r : Relay ω) {d : Delivery} {ds : List Delivery}
    (hu : r.underway = d :: ds) : r.publishView offers delivered =
      { { r with underway := ds }.publishView offers (delivered ++ [d]) with
        taken := d.handed?.toList ++
          ({ r with underway := ds }.publishView offers (delivered ++ [d])).taken } := by
  have hf : ∀ {β : Type} (f : Delivery → Option β), (delivered ++ d :: ds).filterMap f =
      ((delivered ++ [d]) ++ ds).filterMap f := by simp
  have ht : (d :: ds).filterMap Delivery.handed? =
      d.handed?.toList ++ ds.filterMap Delivery.handed? := by
    cases hd : d.handed? <;> simp [hd]
  rw [publishView, fulfilled, hu, hf, hf, ht]
  rfl

lemma Supplied.underway (h : r.Supplied n offers delivered) {d : Delivery} {ds : List Delivery}
    (hu : r.underway = d :: ds) :
    ({ r with underway := ds } : Relay ω).Supplied n offers (delivered ++ [d]) where
  number := h.number
  alone := h.alone
  queue := h.queue
  order := by
    have hf : ({ r with underway := ds } : Relay ω).fulfilled (delivered ++ [d]) =
        r.fulfilled delivered := by
      simp [fulfilled, hu]
    rw [hf]
    exact h.order
  late m a hm := h.late m a (hu ▸ List.mem_cons_of_mem _ hm)

lemma PublishesInRounds.note (h : r.PublishesInRounds n offers delivered) {note : Note}
    (hn : ∀ talk, hear talk note = talk) : (r.note note).PublishesInRounds n offers delivered := by
  refine ⟨h.toSupplied.note note, ?_⟩
  rw [publishView_note, hn]
  exact h.stage

lemma PublishesInRounds.withWorld (h : r.PublishesInRounds n offers delivered)
    {result : List Answer × ω} (hs : ∀ a ∈ result.1, a.isOfStream = true) :
    (r.withWorld result).PublishesInRounds n offers delivered := by
  refine ⟨h.toSupplied.withWorld hs, ?_⟩
  rw [publishView_withWorld r hs]
  exact h.stage

/-- A signal is aborted. Only that of the sessions cancels the call of a session. -/
lemma PublishesInRounds.abort (h : r.PublishesInRounds n offers delivered) (signal : Scope)
    (reason : Failure) :
    (r.withHandoff (r.handoff.abort signal reason)).PublishesInRounds n offers delivered := by
  have hnone : (r.handoff.abort signal reason).2.filterMap
      (fun x => (outcomeDelivery x).fulfilled?) = [] := by
    rcases r.handoff.abort_cases signal reason with he | he <;> rw [he]
    · rfl
    · rw [List.filterMap_map, List.filterMap_eq_nil_iff]
      exact fun call _ => Delivery.fulfilled?_cancelled call reason
  have hsupplied := h.toSupplied.served (h.queue.abort signal reason)
    (by rw [hnone]; exact h.queue.offering_abort signal reason)
  refine ⟨hsupplied, ?_⟩
  cases hr : r.handoff.reason? signal with
  | some old =>
    rw [Handoff.abort_of_aborted hr, publishView_withHandoff_same]
    · exact h.stage
    · rfl
    · rfl
    · rfl
  | none =>
    have hreceivers := Handoff.receivers_abort (.of_eq h.queue.attentive.listeners)
      h.queue.callers_nodup hr reason
    have hhanded : (r.handoff.abort signal reason).2.filterMap
        (fun x => (outcomeDelivery x).handed?) =
          (r.handoff.receivers.filter (·.signal = signal)).map
            fun _ => .error (.cancelled reason) := by
      rw [Handoff.abort_of_current hr]
      exact h.queue.handed_abort signal reason
    have hsession : ∀ w ∈ r.handoff.receivers, w.signal = .session := by
      rcases h.queue.receivers with hw | hw <;> simp [hw]
    obtain ⟨hcancelled, hkept⟩ := Scope.filter_session hsession signal
    rw [publishView_withHandoff r hhanded hnone, hreceivers, hcancelled, hkept,
      List.filterMap_nil, List.append_nil]
    cases signal with
    | session => exact h.stage.drop reason
    | guest number =>
      have hother : Scope.guest number ≠ .session := by simp
      rw [if_neg hother, if_neg hother, List.map_nil, List.append_nil]
      exact h.stage

lemma Supplied.lt_length (h : r.Supplied n offers delivered) {place : Nat}
    (hm : place ∈ r.fulfilled delivered ++ r.handoff.offering) : place < offers.length :=
  (List.pairwise_append.mp h.order).2.2 _ hm _ (List.mem_singleton.mpr rfl)

/-- What has been given does not depend on later offers. -/
lemma Supplied.view_grow (h : r.Supplied n offers delivered) (more : List Update) :
    r.publishView (offers ++ more) delivered = r.publishView offers delivered := by
  have hgiven : (r.fulfilled delivered).filterMap ((offers ++ more)[·]?) =
      (r.fulfilled delivered).filterMap (offers[·]?) := by
    apply List.filterMap_congr
    intro place hm
    exact List.getElem?_append_left (h.lt_length (List.mem_append_left _ hm))
  rw [publishView, hgiven]
  rfl

/-- A guest makes the next offer. -/
lemma PublishesInRounds.offer (h : r.PublishesInRounds n offers delivered) (update : Update)
    (signal : Scope) :
    (r.withHandoff (r.handoff.send (.guest offers.length) update signal)).PublishesInRounds n
      (offers ++ [update]) delivered := by
  have hplace : (offers ++ [update])[offers.length]? = some update := by simp
  have hfresh : offers.length ∉ r.handoff.offering := fun hm =>
    Nat.lt_irrefl _ (h.lt_length (List.mem_append_right _ hm))
  have horder : (r.fulfilled delivered ++ (r.handoff.offering ++ [offers.length]) ++
      [(offers ++ [update]).length]).Pairwise (· < ·) := by
    rw [← List.append_assoc, List.pairwise_append]
    refine ⟨h.order, List.pairwise_singleton _ _, fun place hm last hlast => ?_⟩
    have hle : place ≤ offers.length := by
      rcases List.mem_append.mp hm with hm | hm
      · exact (h.lt_length hm).le
      · exact (List.mem_singleton.mp hm).le
    rw [List.mem_singleton.mp hlast, List.length_append]
    exact Nat.lt_succ_of_le hle
  refine ⟨h.toSupplied.withHandoff ((h.queue.grow [update]).send hfresh hplace signal)
    (h.queue.places_send _ update signal) horder, ?_⟩
  have stage := h.stage
  rw [← h.view_grow [update]] at stage
  rcases r.handoff.send_cases (.guest offers.length) update signal with
    ⟨reason, he⟩ | ⟨w, rest, first, he⟩ | ⟨nobody, he⟩ <;> rw [he]
  · rw [publishView_withHandoff_same]
    · exact stage
    · rfl
    · rfl
    · rfl
  · obtain ⟨rfl, rfl, -⟩ := h.queue.first_receiver first
    have hwaits : (r.publishView (offers ++ [update]) delivered).receivers ≠ [] := by
      simp [publishView, first]
    have hgiven := stage.give hwaits update
    rw [publishView_withHandoff r rfl rfl]
    simpa [outcomeDelivery, Delivery.handed?, Delivery.fulfilled?] using hgiven
  · rw [publishView_withHandoff_same]
    · exact stage
    · rfl
    · rfl
    · rfl

end

end Relay

end TelemetryBridge
