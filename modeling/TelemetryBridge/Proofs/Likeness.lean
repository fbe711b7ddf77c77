import Mathlib.Data.List.Forall2
import TelemetryBridge.Proofs.Lifecycle

/-!
# Runs that are alike

Two bridges side by side, each with endpoints and a login of its own, while the same happens to
both. Sessions do little with failures: they pass them on, are cancelled for them and quote their
messages. So when the endpoints cannot be told apart but for their failures, neither can the
bridges, whichever likeness of failures has been chosen (`Bridge.Alike.after`).
-/

namespace TelemetryBridge

/-! ## What can be alike -/

/-- A likeness of failures that sessions keep, whatever they do with failures. -/
structure Failure.IsLikeness (R : Failure → Failure → Prop) : Prop where
  refl : ∀ f, R f f
  cancelled : ∀ {f f'}, R f f' → R (.cancelled f) (.cancelled f')
  quoted : ∀ (call : String) {f f'}, R f f' →
    R (.stream (call ++ f.message)) (.stream (call ++ f'.message))

/-- Results that are equal, or failures that are alike. -/
inductive ResultAlike (R : Failure → Failure → Prop) {α : Type} :
    Except Failure α → Except Failure α → Prop
  | ok (a : α) : ResultAlike R (.ok a) (.ok a)
  | error {f f' : Failure} : R f f' → ResultAlike R (.error f) (.error f')

namespace SubscribeSession

inductive Reply.Alike (R : Failure → Failure → Prop) : Reply → Reply → Prop
  | requestSent {x x'} : ResultAlike R x x' → Alike R (.requestSent x) (.requestSent x')
  | received {x x'} : ResultAlike R x x' → Alike R (.received x) (.received x')
  | offered {x x'} : ResultAlike R x x' → Alike R (.offered x) (.offered x')

inductive Phase.Alike (R : Failure → Failure → Prop) : Phase → Phase → Prop
  | requesting : Alike R .requesting .requesting
  | receiving : Alike R .receiving .receiving
  | offering (update : Update) : Alike R (.offering update) (.offering update)
  | ended {f f'} : R f f' → Alike R (.ended f) (.ended f')

end SubscribeSession

namespace PublishSession

inductive Reply.Alike (R : Failure → Failure → Prop) : Reply → Reply → Prop
  | taken {x x'} : ResultAlike R x x' → Alike R (.taken x) (.taken x')
  | sent {x x'} : ResultAlike R x x' → Alike R (.sent x) (.sent x')

inductive Phase.Alike (R : Failure → Failure → Prop) : Phase → Phase → Prop
  | taking : Alike R .taking .taking
  | sending (update : Update) : Alike R (.sending update) (.sending update)
  | ended {f f'} : R f f' → Alike R (.ended f) (.ended f')

end PublishSession

inductive Answer.Alike (R : Failure → Failure → Prop) : Answer → Answer → Prop
  | subscriber {x x'} : SubscribeSession.Reply.Alike R x x' →
    Alike R (.subscriber x) (.subscriber x')
  | publisher {x x'} : PublishSession.Reply.Alike R x x' →
    Alike R (.publisher x) (.publisher x')
  | later {a a'} : Alike R a a' → Alike R (.later a) (.later a')

inductive CallOutcome.Alike (R : Failure → Failure → Prop) {α : Type} :
    CallOutcome α → CallOutcome α → Prop
  | sent : Alike R .sent .sent
  | received (value : α) : Alike R (.received value) (.received value)
  | cancelled {f f'} : R f f' → Alike R (.cancelled f) (.cancelled f')

inductive Delivery.Alike (R : Failure → Failure → Prop) : Delivery → Delivery → Prop
  | answer (n : Nat) {a a'} : Answer.Alike R a a' → Alike R (.answer n a) (.answer n a')
  | guest (n : Nat) {o o'} : CallOutcome.Alike R o o' → Alike R (.guest n o) (.guest n o')
  | ended (side : Side) {f f'} : R f f' → Alike R (.ended side f) (.ended side f')

/-- Records that are equal, but for the failure after which an attempt is repeated. -/
inductive LogEvent.Alike (R : Failure → Failure → Prop) : LogEvent → LogEvent → Prop
  | same (event : LogEvent) : Alike R event event
  | retrying (attempt forwarded : Nat) (delay : Number) {f f'} : R f f' →
    Alike R (.retrying f attempt forwarded delay) (.retrying f' attempt forwarded delay)

/-- What is logged with a note. -/
def Note.event? : Note → Option LogEvent
  | log event => some event
  | _ => none

/-- What a relay has logged. -/
def Relay.records {ω : Type} (r : Relay ω) : List LogEvent := r.history.filterMap Note.event?

/-- Hand-offs on which the same calls wait, with signals that are aborted for alike reasons. -/
structure Handoff.Alike (R : Failure → Failure → Prop) {κ σ α : Type} (h h' : Handoff κ σ α) :
    Prop where
  senders : h'.senders = h.senders
  receivers : h'.receivers = h.receivers
  listeners : h'.listeners = h.listeners
  aborted : List.Forall₂ (fun s s' => s.1 = s'.1 ∧ R s.2 s'.2) h.aborted h'.aborted

/-- How two bridges are alike: in their failures, in their worlds, and by the logins that they open
their streams with. -/
structure Likeness (ω : Type) where
  failure : Failure → Failure → Prop
  world : ω → ω → Prop
  logins : Option Login × Option Login

variable {ω ε : Type}

/-- Relays whose sessions are alike, and wait for alike answers. -/
structure Relay.Alike (L : Likeness ω) (r r' : Relay ω) : Prop where
  number : r'.number = r.number
  world : L.world r.world r'.world
  request : r'.request = r.request
  logins : (r.metadata, r'.metadata) = L.logins
  handoff : r.handoff.Alike L.failure r'.handoff
  subscriber : Option.Rel (SubscribeSession.Phase.Alike L.failure) r.subscriber r'.subscriber
  publisher : Option.Rel (PublishSession.Phase.Alike L.failure) r.publisher r'.publisher
  underway : List.Forall₂ (Delivery.Alike L.failure) r.underway r'.underway
  forwarded : r'.forwarded = r.forwarded
  records : List.Forall₂ (LogEvent.Alike L.failure) r.records r'.records

/-- Bridges that differ in their relays and the failures they have heard of, and these are alike. -/
inductive Bridge.Alike (L : Likeness ω) (b : Bridge ω) : Bridge ω → Prop
  | mk {r' : Relay ω} {first' : Option Failure} (relay : b.relay.Alike L r')
    (first : Option.Rel L.failure b.firstFailure first') :
    Alike L b { b with relay := r', firstFailure := first' }

/-- Worlds that are alike and yield the same answers. -/
def Likeness.Yields (L : Likeness ω) (x x' : List Answer × ω) : Prop :=
  x'.1 = x.1 ∧ L.world x.2 x'.2

/-- The endpoints cannot be told apart: on alike worlds, streams open with alike outcomes, and
answer with the same. -/
structure Likeness.Holds [Endpoints ω] (L : Likeness ω)
    (occur : ε → ω → Option (List Answer × ω)) : Prop where
  failures : Failure.IsLikeness L.failure
  openSubscribe : ∀ {w w'}, L.world w w' →
    ResultAlike L.failure (Endpoints.openSubscribe L.logins.1 w).1
      (Endpoints.openSubscribe L.logins.2 w').1 ∧
    L.world (Endpoints.openSubscribe L.logins.1 w).2 (Endpoints.openSubscribe L.logins.2 w').2
  openPublish : ∀ {w w'}, L.world w w' →
    ResultAlike L.failure (Endpoints.openPublish w).1 (Endpoints.openPublish w').1 ∧
    L.world (Endpoints.openPublish w).2 (Endpoints.openPublish w').2
  sendRequest : ∀ request {w w'}, L.world w w' →
    L.Yields (Endpoints.sendRequest request w) (Endpoints.sendRequest request w')
  receive : ∀ {w w'}, L.world w w' → L.Yields (Endpoints.receive w) (Endpoints.receive w')
  closeSubscribe : ∀ {w w'}, L.world w w' →
    L.Yields (Endpoints.closeSubscribe w) (Endpoints.closeSubscribe w')
  sendUpdate : ∀ update {w w'}, L.world w w' →
    L.Yields (Endpoints.sendUpdate update w) (Endpoints.sendUpdate update w')
  closePublish : ∀ {w w'}, L.world w w' →
    L.Yields (Endpoints.closePublish w) (Endpoints.closePublish w')
  cancel : ∀ {w w'}, L.world w w' → L.Yields (Endpoints.cancel w) (Endpoints.cancel w')
  occur : ∀ event {w w'}, L.world w w' → Option.Rel L.Yields (occur event w) (occur event w')

/-- Nothing differs. -/
def Likeness.same (ω : Type) (login : Option Login) : Likeness ω := ⟨Eq, Eq, login, login⟩

lemma Failure.isLikeness_eq : IsLikeness Eq where
  refl _ := rfl
  cancelled h := congrArg Failure.cancelled h
  quoted := by
    rintro call f _ rfl
    rfl

/-! ## Sessions -/

section

variable {R : Failure → Failure → Prop}

lemma ResultAlike.refl (hR : Failure.IsLikeness R) {α : Type} (x : Except Failure α) :
    ResultAlike R x x := by
  cases x with
  | error f => exact .error (hR.refl f)
  | ok a => exact .ok a

lemma Answer.Alike.refl (hR : Failure.IsLikeness R) (a : Answer) : a.Alike R a := by
  induction a with
  | subscriber reply => cases reply with
    | requestSent x => exact .subscriber (.requestSent (.refl hR x))
    | received x => exact .subscriber (.received (.refl hR x))
    | offered x => exact .subscriber (.offered (.refl hR x))
  | publisher reply => cases reply with
    | taken x => exact .publisher (.taken (.refl hR x))
    | sent x => exact .publisher (.sent (.refl hR x))
  | later a ih => exact .later ih

/-- A call that fails in alike scopes fails alike. -/
lemma Failure.ofStream_alike (hR : IsLikeness R) {aborted aborted' : Option Failure}
    (ha : Option.Rel R aborted aborted') (call : String) {f f' : Failure} (hf : R f f') :
    R (ofStream aborted (call ++ f.message)) (ofStream aborted' (call ++ f'.message)) := by
  cases ha with
  | none => exact hR.quoted call hf
  | some hreason => exact hR.cancelled hreason

variable {aborted aborted' : Option Failure}

lemma SubscribeSession.opened_alike (hR : Failure.IsLikeness R) {x x' : Except Failure Unit}
    (hx : ResultAlike R x x') :
    (opened x).1.Alike R (opened x').1 ∧ (opened x').2 = (opened x).2 := by
  cases hx with
  | ok => exact ⟨.requesting, rfl⟩
  | error hf => exact ⟨.ended (hR.quoted _ hf), rfl⟩

lemma PublishSession.opened_alike (hR : Failure.IsLikeness R) {x x' : Except Failure Unit}
    (hx : ResultAlike R x x') :
    (opened x).1.Alike R (opened x').1 ∧ (opened x').2 = (opened x).2 := by
  cases hx with
  | ok => exact ⟨.taking, rfl⟩
  | error hf => exact ⟨.ended (hR.quoted _ hf), rfl⟩

/-- Alike sessions react alike: the failures they end with are alike, and what they ask for is the
same. -/
lemma SubscribeSession.react_alike (hR : Failure.IsLikeness R) (ha : Option.Rel R aborted aborted')
    {phase phase' : Phase} (hp : phase.Alike R phase') {reply reply' : Reply}
    (hr : reply.Alike R reply') :
    (react aborted phase reply).1.Alike R (react aborted' phase' reply').1 ∧
      (react aborted' phase' reply').2 = (react aborted phase reply).2 := by
  cases hp with
  | requesting => cases hr with
    | requestSent hx => cases hx with
      | ok => exact ⟨.receiving, rfl⟩
      | error hf => exact ⟨.ended (Failure.ofStream_alike hR ha _ hf), rfl⟩
    | received | offered => exact ⟨.requesting, rfl⟩
  | receiving => cases hr with
    | received hx => cases hx with
      | ok update? => cases update? with
        | none => exact ⟨.ended (hR.refl _), rfl⟩
        | some update => exact ⟨.offering update, rfl⟩
      | error hf => exact ⟨.ended (Failure.ofStream_alike hR ha _ hf), rfl⟩
    | requestSent | offered => exact ⟨.receiving, rfl⟩
  | offering update => cases hr with
    | offered hx => cases hx with
      | ok => exact ⟨.receiving, rfl⟩
      | error hf => exact ⟨.ended hf, rfl⟩
    | requestSent | received => exact ⟨.offering update, rfl⟩
  | ended hf => exact ⟨.ended hf, rfl⟩

lemma PublishSession.react_alike (hR : Failure.IsLikeness R) (ha : Option.Rel R aborted aborted')
    {phase phase' : Phase} (hp : phase.Alike R phase') {reply reply' : Reply}
    (hr : reply.Alike R reply') :
    (react aborted phase reply).1.Alike R (react aborted' phase' reply').1 ∧
      (react aborted' phase' reply').2 = (react aborted phase reply).2 := by
  cases hp with
  | taking => cases hr with
    | taken hx => cases hx with
      | ok update => exact ⟨.sending update, rfl⟩
      | error hf => exact ⟨.ended hf, rfl⟩
    | sent => exact ⟨.taking, rfl⟩
  | sending update => cases hr with
    | sent hx => cases hx with
      | ok => exact ⟨.taking, rfl⟩
      | error hf => exact ⟨.ended (Failure.ofStream_alike hR ha _ hf), rfl⟩
    | taken => exact ⟨.sending update, rfl⟩
  | ended hf => exact ⟨.ended hf, rfl⟩

end

/-- Endpoints cannot be told apart from themselves. -/
lemma Likeness.same_holds [Endpoints ω] {login : Option Login}
    (occur : ε → ω → Option (List Answer × ω)) : (same ω login).Holds occur where
  failures := Failure.isLikeness_eq
  openSubscribe := by
    rintro w _ rfl
    exact ⟨.refl Failure.isLikeness_eq _, rfl⟩
  openPublish := by
    rintro w _ rfl
    exact ⟨.refl Failure.isLikeness_eq _, rfl⟩
  sendRequest := by
    rintro request w _ rfl
    exact ⟨rfl, rfl⟩
  receive := by
    rintro w _ rfl
    exact ⟨rfl, rfl⟩
  closeSubscribe := by
    rintro w _ rfl
    exact ⟨rfl, rfl⟩
  sendUpdate := by
    rintro update w _ rfl
    exact ⟨rfl, rfl⟩
  closePublish := by
    rintro w _ rfl
    exact ⟨rfl, rfl⟩
  cancel := by
    rintro w _ rfl
    exact ⟨rfl, rfl⟩
  occur := by
    rintro event w _ rfl
    cases occur event w with
    | none => exact .none
    | some result => exact .some ⟨rfl, rfl⟩

/-! ## The hand-off -/

namespace Handoff

variable {R : Failure → Failure → Prop} {κ σ α : Type} [DecidableEq κ] [DecidableEq σ]
  {h h' : Handoff κ σ α}

/-- Calls that leave alike hand-offs, and end the same calls with alike outcomes. -/
structure EndsAlike (R : Failure → Failure → Prop)
    (x x' : Handoff κ σ α × List (κ × CallOutcome α)) : Prop where
  handoff : x.1.Alike R x'.1
  calls : List.Forall₂ (fun c c' => c.1 = c'.1 ∧ c.2.Alike R c'.2) x.2 x'.2

omit [DecidableEq κ] in
lemma Alike.reason? (hh : h.Alike R h') (signal : σ) :
    Option.Rel R (h.reason? signal) (h'.reason? signal) := by
  unfold Handoff.reason?
  have haborted := hh.aborted
  generalize h.aborted = l, h'.aborted = l' at haborted
  induction haborted with
  | nil => exact .none
  | @cons s s' _ _ hs _ ih =>
    obtain ⟨hsignal, hreason⟩ := hs
    rw [List.lookup_cons, List.lookup_cons, ← hsignal]
    split
    · exact .some hreason
    · exact ih

lemma Alike.send (hh : h.Alike R h') (call : κ) (value : α) (signal : σ) :
    EndsAlike R (h.send call value signal) (h'.send call value signal) := by
  have hreason := hh.reason? signal
  unfold Handoff.send
  generalize h.reason? signal = reason?, h'.reason? signal = reason?' at hreason
  cases hreason with
  | some hreason => exact ⟨hh, .cons ⟨rfl, .cancelled hreason⟩ .nil⟩
  | none =>
    rw [hh.receivers, hh.listeners, hh.senders]
    cases h.receivers with
    | nil => exact ⟨⟨rfl, rfl, rfl, hh.aborted⟩, .nil⟩
    | cons waiting rest =>
      exact ⟨⟨rfl, rfl, rfl, hh.aborted⟩, .cons ⟨rfl, .received value⟩ (.cons ⟨rfl, .sent⟩ .nil)⟩

lemma Alike.receive (hh : h.Alike R h') (call : κ) (signal : σ) :
    EndsAlike R (h.receive call signal) (h'.receive call signal) := by
  have hreason := hh.reason? signal
  unfold Handoff.receive
  generalize h.reason? signal = reason?, h'.reason? signal = reason?' at hreason
  cases hreason with
  | some hreason => exact ⟨hh, .cons ⟨rfl, .cancelled hreason⟩ .nil⟩
  | none =>
    rw [hh.receivers, hh.listeners, hh.senders]
    cases h.senders with
    | nil => exact ⟨⟨rfl, rfl, rfl, hh.aborted⟩, .nil⟩
    | cons waiting rest =>
      exact ⟨⟨rfl, rfl, rfl, hh.aborted⟩,
        .cons ⟨rfl, .sent⟩ (.cons ⟨rfl, .received waiting.value⟩ .nil)⟩

lemma Alike.abort (hh : h.Alike R h') (signal : σ) {reason reason' : Failure}
    (hr : R reason reason') : EndsAlike R (h.abort signal reason) (h'.abort signal reason') := by
  have hreason := hh.reason? signal
  unfold Handoff.abort
  generalize h.reason? signal = reason?, h'.reason? signal = reason?' at hreason
  cases hreason with
  | some _ => exact ⟨hh, .nil⟩
  | none =>
    have hlistening : h'.listening signal = h.listening signal := by
      rw [listening, hh.listeners, listening]
    rw [hlistening, hh.receivers, hh.listeners, hh.senders]
    refine ⟨⟨rfl, rfl, rfl, List.rel_append hh.aborted (.cons ⟨rfl, hr⟩ .nil)⟩, ?_⟩
    rw [List.forall₂_map_left_iff, List.forall₂_map_right_iff]
    exact List.forall₂_same.mpr fun call _ => ⟨rfl, .cancelled hr⟩

end Handoff

/-! ## Relays -/

namespace Relay

variable {L : Likeness ω} {r r' : Relay ω}

lemma outcomeDelivery_alike (hR : Failure.IsLikeness L.failure) (party : Party)
    {outcome outcome' : CallOutcome Update} (h : outcome.Alike L.failure outcome') :
    (outcomeDelivery (party, outcome)).Alike L.failure (outcomeDelivery (party, outcome')) := by
  cases party with
  | subscriber n => cases h with
    | sent | received => exact .answer n (.subscriber (.offered (.ok ())))
    | cancelled hf => exact .answer n (.subscriber (.offered (.error (hR.cancelled hf))))
  | publisher n => cases h with
    | sent => exact .answer n (.publisher (.sent (.ok ())))
    | received update => exact .answer n (.publisher (.taken (.ok update)))
    | cancelled hf => exact .answer n (.publisher (.taken (.error (hR.cancelled hf))))
  | guest n => exact .guest n h

namespace Alike

lemma note (h : r.Alike L r') {n n' : Note}
    (hn : List.Forall₂ (LogEvent.Alike L.failure) n.event?.toList n'.event?.toList) :
    (r.note n).Alike L (r'.note n') := by
  refine { h with records := ?_ }
  have hrecords (r : Relay ω) (n : Note) : (r.note n).records = r.records ++ n.event?.toList := by
    cases hn : n.event? <;> simp [Relay.records, Relay.note, hn]
  rw [hrecords, hrecords]
  exact List.rel_append h.records hn

lemma noteSame (h : r.Alike L r') (n : Note) : (r.note n).Alike L (r'.note n) :=
  h.note (List.forall₂_same.mpr fun event _ => .same event)

lemma post (h : r.Alike L r') {ds ds' : List Delivery}
    (hd : List.Forall₂ (Delivery.Alike L.failure) ds ds') : (r.post ds).Alike L (r'.post ds') :=
  { h with underway := List.rel_append h.underway hd }

lemma inWorld (h : r.Alike L r') {w w' : ω} (hw : L.world w w') :
    ({ r with world := w } : Relay ω).Alike L { r' with world := w' } :=
  { h with world := hw }

lemma withWorld (hR : Failure.IsLikeness L.failure) (h : r.Alike L r') {x x' : List Answer × ω}
    (hx : L.Yields x x') : (r.withWorld x).Alike L (r'.withWorld x') := by
  obtain ⟨hanswers, hworld⟩ := hx
  refine (h.inWorld hworld).post ?_
  rw [hanswers, h.number, List.forall₂_map_left_iff, List.forall₂_map_right_iff]
  exact List.forall₂_same.mpr fun a _ => .answer r.number (.refl hR a)

lemma withHandoff (hR : Failure.IsLikeness L.failure) (h : r.Alike L r')
    {x x' : Handoff Party Scope Update × List (Party × CallOutcome Update)}
    (hx : Handoff.EndsAlike L.failure x x') : (r.withHandoff x).Alike L (r'.withHandoff x') := by
  have hleft : ({ r with handoff := x.1 } : Relay ω).Alike L { r' with handoff := x'.1 } :=
    { h with handoff := hx.handoff }
  refine hleft.post ?_
  rw [List.forall₂_map_left_iff, List.forall₂_map_right_iff]
  refine hx.calls.imp fun call call' hcall => ?_
  obtain ⟨party, outcome⟩ := call
  obtain ⟨party', outcome'⟩ := call'
  obtain ⟨rfl, houtcome⟩ := hcall
  exact outcomeDelivery_alike hR party houtcome

section

variable [Endpoints ω] {occur : ε → ω → Option (List Answer × ω)}

lemma carryOutSubscriber (hL : L.Holds occur) (h : r.Alike L r')
    (command : SubscribeSession.Command) :
    (r.carryOutSubscriber command).Alike L (r'.carryOutSubscriber command) := by
  cases command with
  | sendRequest =>
    rw [Relay.carryOutSubscriber, Relay.carryOutSubscriber, h.request]
    exact h.withWorld hL.failures (hL.sendRequest _ h.world)
  | receive => exact h.withWorld hL.failures (hL.receive h.world)
  | offer update =>
    rw [Relay.carryOutSubscriber, Relay.carryOutSubscriber, h.number]
    exact h.withHandoff hL.failures (h.handoff.send _ _ _)
  | close => exact h.withWorld hL.failures (hL.closeSubscribe h.world)
  | noteRequestSent =>
    rw [Relay.carryOutSubscriber, Relay.carryOutSubscriber, h.request]
    exact h.note (.cons (.same _) .nil)

lemma carryOutPublisher (hL : L.Holds occur) (h : r.Alike L r')
    (command : PublishSession.Command) :
    (r.carryOutPublisher command).Alike L (r'.carryOutPublisher command) := by
  cases command with
  | take =>
    rw [Relay.carryOutPublisher, Relay.carryOutPublisher, h.number]
    exact h.withHandoff hL.failures (h.handoff.receive _ _)
  | send update => exact h.withWorld hL.failures (hL.sendUpdate update h.world)
  | forwarded update => exact { h with forwarded := congrArg (· + 1) h.forwarded }
  | close => exact h.withWorld hL.failures (hL.closePublish h.world)
  | noteOpened => exact h.note (.cons (.same _) .nil)

lemma obeySubscriber (hL : L.Holds occur) (h : r.Alike L r')
    (commands : List SubscribeSession.Command) :
    (commands.foldl Relay.obeySubscriber r).Alike L (commands.foldl Relay.obeySubscriber r') := by
  induction commands generalizing r r' with
  | nil => exact h
  | cons command commands ih => exact ih ((h.note .nil).carryOutSubscriber hL command)

lemma obeyPublisher (hL : L.Holds occur) (h : r.Alike L r')
    (commands : List PublishSession.Command) :
    (commands.foldl Relay.obeyPublisher r).Alike L (commands.foldl Relay.obeyPublisher r') := by
  induction commands generalizing r r' with
  | nil => exact h
  | cons command commands ih => exact ih ((h.note .nil).carryOutPublisher hL command)

lemma moveSubscriber (hL : L.Holds occur) (h : r.Alike L r')
    {next next' : SubscribeSession.Phase × List SubscribeSession.Command}
    (hn : next.1.Alike L.failure next'.1 ∧ next'.2 = next.2) :
    (r.moveSubscriber next).Alike L (r'.moveSubscriber next') := by
  obtain ⟨phase, commands⟩ := next
  obtain ⟨phase', commands'⟩ := next'
  obtain ⟨hphase, rfl⟩ := hn
  have hmoved : ({ r with subscriber := some phase } : Relay ω).Alike L
      { r' with subscriber := some phase' } := { h with subscriber := .some hphase }
  have hobeyed := hmoved.obeySubscriber hL commands'
  cases hphase with
  | requesting | receiving | offering => exact hobeyed
  | ended hf => exact hobeyed.post (.cons (.ended .subscribe hf) .nil)

lemma movePublisher (hL : L.Holds occur) (h : r.Alike L r')
    {next next' : PublishSession.Phase × List PublishSession.Command}
    (hn : next.1.Alike L.failure next'.1 ∧ next'.2 = next.2) :
    (r.movePublisher next).Alike L (r'.movePublisher next') := by
  obtain ⟨phase, commands⟩ := next
  obtain ⟨phase', commands'⟩ := next'
  obtain ⟨hphase, rfl⟩ := hn
  have hmoved : ({ r with publisher := some phase } : Relay ω).Alike L
      { r' with publisher := some phase' } := { h with publisher := .some hphase }
  have hobeyed := hmoved.obeyPublisher hL commands'
  cases hphase with
  | taking | sending => exact hobeyed
  | ended hf => exact hobeyed.post (.cons (.ended .publish hf) .nil)

omit [Endpoints ω] in
lemma noteOpening (h : r.Alike L r') (side : Side) {x x' : Except Failure Unit}
    (hx : ResultAlike L.failure x x') :
    (r.noteOpening side x).Alike L (r'.noteOpening side x') := by
  cases hx with
  | ok => exact h.note .nil
  | error => exact h

omit [Endpoints ω] in
lemma cancelled? (h : r.Alike L r') : Option.Rel L.failure r.cancelled? r'.cancelled? :=
  h.handoff.reason? .session

lemma startSubscriber (hL : L.Holds occur) (h : r.Alike L r') :
    r.startSubscriber.Alike L r'.startSubscriber := by
  have hcancelled := h.cancelled?
  unfold Relay.startSubscriber
  generalize r.cancelled? = reason?, r'.cancelled? = reason?' at hcancelled
  cases hcancelled with
  | some hreason => exact h.moveSubscriber hL ⟨.ended (hL.failures.cancelled hreason), rfl⟩
  | none =>
    obtain ⟨hresult, hworld⟩ := hL.openSubscribe h.world
    obtain ⟨hlogin, hlogin'⟩ := Prod.mk.inj h.logins
    rw [← hlogin, ← hlogin'] at hresult hworld
    have hopened := (h.inWorld hworld).noteOpening .subscribe hresult
    exact hopened.moveSubscriber hL (SubscribeSession.opened_alike hL.failures hresult)

lemma startPublisher (hL : L.Holds occur) (h : r.Alike L r') :
    r.startPublisher.Alike L r'.startPublisher := by
  have hcancelled := h.cancelled?
  unfold Relay.startPublisher
  generalize r.cancelled? = reason?, r'.cancelled? = reason?' at hcancelled
  cases hcancelled with
  | some hreason => exact h.movePublisher hL ⟨.ended (hL.failures.cancelled hreason), rfl⟩
  | none =>
    obtain ⟨hresult, hworld⟩ := hL.openPublish h.world
    have hopened := (h.inWorld hworld).noteOpening .publish hresult
    exact hopened.movePublisher hL (PublishSession.opened_alike hL.failures hresult)

lemma startPair (hL : L.Holds occur) (h : r.Alike L r') (status : BridgeStatus) :
    (r.startPair status).Alike L (r'.startPair status) := by
  have hfresh : r.fresh.Alike L r'.fresh :=
    { h with handoff := ⟨rfl, rfl, rfl, .nil⟩, subscriber := .none, publisher := .none }
  have hsubscriber := (hfresh.noteSame (.opening .subscribe 2 status)).startSubscriber hL
  exact (hsubscriber.noteSame (.opening .publish 2 status)).startPublisher hL

lemma cancel (hL : L.Holds occur) (h : r.Alike L r') {reason reason' : Failure}
    (hr : L.failure reason reason') : (r.cancel reason).Alike L (r'.cancel reason') := by
  have hcancelled := h.cancelled?
  unfold Relay.cancel
  generalize r.cancelled? = reason?, r'.cancelled? = reason?' at hcancelled
  cases hcancelled with
  | some => exact h
  | none =>
    have htold := h.withWorld hL.failures (hL.cancel h.world)
    exact htold.withHandoff hL.failures (htold.handoff.abort .session hr)

lemma answer (hL : L.Holds occur) (h : r.Alike L r') {a a' : Answer}
    (ha : a.Alike L.failure a') : (r.answer a).Alike L (r'.answer a') := by
  cases ha with
  | @subscriber reply reply' hreply =>
    have hphase := h.subscriber
    have htold : (r.note (.subscriberTold reply)).Alike L (r'.note (.subscriberTold reply')) :=
      h.note .nil
    have hreact {phase phase' : SubscribeSession.Phase} (hp : phase.Alike L.failure phase') :=
      htold.moveSubscriber hL
        (SubscribeSession.react_alike hL.failures h.cancelled? hp hreply)
    unfold Relay.answer
    generalize r.subscriber = phase?, r'.subscriber = phase?' at hphase
    cases hphase with
    | none => exact h
    | some hp => cases hp with
      | ended => exact h
      | requesting => exact hreact .requesting
      | receiving => exact hreact .receiving
      | offering update => exact hreact (.offering update)
  | @publisher reply reply' hreply =>
    have hphase := h.publisher
    have htold : (r.note (.publisherTold reply)).Alike L (r'.note (.publisherTold reply')) :=
      h.note .nil
    have hreact {phase phase' : PublishSession.Phase} (hp : phase.Alike L.failure phase') :=
      htold.movePublisher hL (PublishSession.react_alike hL.failures h.cancelled? hp hreply)
    unfold Relay.answer
    generalize r.publisher = phase?, r'.publisher = phase?' at hphase
    cases hphase with
    | none => exact h
    | some hp => cases hp with
      | ended => exact h
      | taking => exact hreact .taking
      | sending update => exact hreact (.sending update)
  | later ha =>
    rw [Relay.answer, Relay.answer, h.number]
    exact h.post (.cons (.answer r.number ha) .nil)

end

end Alike

end Relay

/-! ## Bridges -/

namespace Bridge

variable {b : Bridge ω}

lemma finishAttempt_of_idle (hrun : b.run = none) : b.finishAttempt = b := by
  rw [finishAttempt, hrun]

lemma finishAttempt_of_run {run : BridgeRun} (hrun : b.run = some run) :
    b.finishAttempt = if (b.stopReason? run).isSome then b.stop run else b.startPause := by
  rcases finishAttempt_cases b with ⟨hidle, -⟩ | ⟨own, hown, hstopped, h⟩ | ⟨own, hown, hgoing, h⟩
  · cases hidle.symm.trans hrun
  · cases hown.symm.trans hrun
    rw [h, if_pos hstopped]
  · cases hown.symm.trans hrun
    rw [h, hgoing]
    rfl

lemma startSessions_eq [Endpoints ω] :
    b.startSessions = { b with
      active := 2
      firstFailure := none
      forwardedBefore := b.relay.forwarded
      relay := b.relay.startPair b.status } :=
  rfl

lemma nextAttempt_eq [Endpoints ω] (run : BridgeRun) :
    b.nextAttempt run =
      if (b.stopReason? run).isSome || b.isExhausted run then b.stop run else b.startAttempt run :=
  rfl

end Bridge

namespace Bridge.Alike

variable {L : Likeness ω} {b b' : Bridge ω}

lemma create {w w' : ω} (hw : L.world w w') (request : SubscribeRequest)
    (policy : Backoff.Policy) (timer : Backoff.Timer) :
    (Bridge.create w request L.logins.1 policy timer).Alike L
      (Bridge.create w' request L.logins.2 policy timer) :=
  mk (b := Bridge.create w request L.logins.1 policy timer)
    ⟨rfl, hw, rfl, rfl, ⟨rfl, rfl, rfl, .nil⟩, .none, .none, .nil, rfl, .nil⟩ .none

lemma relay (h : b.Alike L b') : b.relay.Alike L b'.relay := by
  obtain ⟨hrelay, -⟩ := h
  exact hrelay

lemma stats (h : b.Alike L b') : b'.stats = b.stats := by
  obtain ⟨hrelay, -⟩ := h
  exact congrArg (Totals.mk b.attempts b.failures) hrelay.forwarded

lemma run (h : b.Alike L b') : b'.run = b.run := by cases h; rfl

lemma pause (h : b.Alike L b') : b'.pause = b.pause := by cases h; rfl

lemma status (h : b.Alike L b') : b'.status = b.status := by cases h; rfl

lemma stopReason? (h : b.Alike L b') : b'.stopReason? = b.stopReason? := by cases h; rfl

lemma isExhausted (h : b.Alike L b') : b'.isExhausted = b.isExhausted := by cases h; rfl

lemma withRelay (h : b.Alike L b') {r r' : Relay ω} (hr : r.Alike L r') :
    ({ b with relay := r } : Bridge ω).Alike L { b' with relay := r' } := by
  obtain ⟨-, hfirst⟩ := h
  exact mk (b := { b with relay := r }) hr hfirst

lemma note (h : b.Alike L b') {n n' : Note}
    (hn : List.Forall₂ (LogEvent.Alike L.failure) n.event?.toList n'.event?.toList) :
    (b.note n).Alike L (b'.note n') :=
  h.withRelay (h.relay.note hn)

lemma noteSame (h : b.Alike L b') (n : Note) : (b.note n).Alike L (b'.note n) :=
  h.withRelay (h.relay.noteSame n)

lemma stop (h : b.Alike L b') (run : BridgeRun) : (b.stop run).Alike L (b'.stop run) := by
  have hstats := h.stats
  obtain ⟨hrelay, hfirst⟩ := h
  have hstopped := mk (b := { b with status := .stopped, run := none, pause := none }) hrelay hfirst
  unfold Bridge.stop
  rw [hstats]
  exact (hstopped.noteSame _).noteSame _

lemma startPause (hR : Failure.IsLikeness L.failure) (h : b.Alike L b') :
    b.startPause.Alike L b'.startPause := by
  cases h with
  | @mk r' first' hrelay hfirst =>
    have hreported : L.failure (b.firstFailure.getD .absent) (first'.getD .absent) := by
      generalize b.firstFailure = first at hfirst
      cases hfirst with
      | none => exact hR.refl _
      | some hf => exact hf
    unfold Bridge.startPause
    dsimp only
    rw [hrelay.forwarded]
    refine note (noteSame ?_ _) (.cons (.retrying _ _ _ hreported) .nil)
    exact mk hrelay hfirst

lemma finishAttempt (hR : Failure.IsLikeness L.failure) (h : b.Alike L b') :
    b.finishAttempt.Alike L b'.finishAttempt := by
  rcases hrun : b.run with _ | run
  · rw [finishAttempt_of_idle hrun, finishAttempt_of_idle (h.run.trans hrun)]
    exact h
  · rw [finishAttempt_of_run hrun, finishAttempt_of_run (h.run.trans hrun), h.stopReason?]
    split_ifs
    · exact h.stop run
    · exact h.startPause hR

section

variable [Endpoints ω] {occur : ε → ω → Option (List Answer × ω)}

lemma startSessions (hL : L.Holds occur) (h : b.Alike L b') :
    b.startSessions.Alike L b'.startSessions := by
  cases h with
  | @mk r' first' hrelay =>
    have hforgotten : Option.Rel L.failure none none := .none
    have hstarted := mk (b := { b with
      active := 2
      firstFailure := none
      forwardedBefore := b.relay.forwarded
      relay := b.relay.startPair b.status }) (hrelay.startPair hL b.status) hforgotten
    rw [startSessions_eq, startSessions_eq]
    dsimp only
    rw [hrelay.forwarded]
    exact hstarted

lemma startAttempt (hL : L.Holds occur) (h : b.Alike L b') (run : BridgeRun) :
    (b.startAttempt run).Alike L (b'.startAttempt run) := by
  obtain ⟨hrelay, hfirst⟩ := h
  have hbegun := mk (b := { b with
    attempts := b.attempts + 1, status := .running, run := some run, pause := none }) hrelay hfirst
  exact (hbegun.noteSame _).startSessions hL

lemma nextAttempt (hL : L.Holds occur) (h : b.Alike L b') (run : BridgeRun) :
    (b.nextAttempt run).Alike L (b'.nextAttempt run) := by
  rw [nextAttempt_eq, nextAttempt_eq, h.stopReason?, h.isExhausted]
  split_ifs
  · exact h.stop run
  · exact h.startAttempt hL run

lemma start (hL : L.Holds occur) (h : b.Alike L b') (run : BridgeRun) :
    (b.start run).Alike L (b'.start run) := by
  unfold Bridge.start Bridge.isBusy
  rw [h.status]
  split_ifs
  · exact h.noteSame _
  · exact h.nextAttempt hL run

lemma sessionEnded (hL : L.Holds occur) (h : b.Alike L b') {f f' : Failure}
    (hf : L.failure f f') : (b.sessionEnded f).Alike L (b'.sessionEnded f') := by
  cases h with
  | @mk r' first' hrelay hfirst =>
    have hfirst' : Option.Rel L.failure (b.firstFailure <|> some f) (first' <|> some f') := by
      generalize b.firstFailure = first at hfirst
      cases hfirst with
      | none => exact .some hf
      | some hfirst => exact .some hfirst
    have hheard := mk (b := { b with
      firstFailure := b.firstFailure <|> some f
      relay := b.relay.cancel f
      active := b.active - 1 }) (hrelay.cancel hL hf) hfirst'
    unfold Bridge.sessionEnded
    dsimp only
    split_ifs
    · exact hheard.finishAttempt hL.failures
    · exact hheard

lemma deliver (hL : L.Holds occur) (h : b.Alike L b') {d d' : Delivery}
    (hd : d.Alike L.failure d') : (b.deliver d).Alike L (b'.deliver d') := by
  cases hd with
  | answer n ha => exact h.withRelay (h.relay.answer hL ha)
  | guest n => exact h.withRelay (h.relay.note .nil)
  | ended side hf => exact (h.note .nil).sessionEnded hL hf

lemma turn? (hL : L.Holds occur) (h : b.Alike L b') :
    Option.Rel (Bridge.Alike L) b.turn? b'.turn? := by
  have hunderway := h.relay.underway
  unfold Bridge.turn?
  generalize b.relay.underway = ds, b'.relay.underway = ds' at hunderway
  cases hunderway with
  | nil => exact .none
  | @cons d d' ds ds' hd hrest =>
    have htaken : ({ b.relay with underway := ds } : Relay ω).Alike L
        { b'.relay with underway := ds' } := { h.relay with underway := hrest }
    exact .some ((h.withRelay htaken).deliver hL hd)

lemma abort (hL : L.Holds occur) (h : b.Alike L b') (signal : Nat) (reason : Failure) :
    (b.abort signal reason).Alike L (b'.abort signal reason) := by
  obtain ⟨hrelay, hfirst⟩ := h
  have haborted := mk (b := { b with aborted := b.aborted ++ [(signal, reason)] }) hrelay hfirst
  unfold Bridge.abort
  dsimp only
  split
  · exact mk hrelay hfirst
  · split
    · exact haborted
    · split_ifs
      · exact haborted.stop _
      · exact haborted.withRelay (hrelay.cancel hL (hL.failures.refl reason))
      · exact haborted

lemma elapse (hL : L.Holds occur) (h : b.Alike L b') (duration : Rat) :
    (b.elapse duration).Alike L (b'.elapse duration) := by
  obtain ⟨hrelay, hfirst⟩ := h
  have hlater := mk (b := { b with clock := b.clock + duration }) hrelay hfirst
  unfold Bridge.elapse
  dsimp only
  split
  · split_ifs
    · exact hlater.nextAttempt hL _
    · exact hlater
  · exact hlater

lemma occur? (hL : L.Holds occur) (h : b.Alike L b') (event : ε) :
    Option.Rel (Bridge.Alike L) (b.occur? (occur event)) (b'.occur? (occur event)) := by
  have hresult := hL.occur event h.relay.world
  unfold Bridge.occur? Relay.occur?
  generalize occur event b.relay.world = x?, occur event b'.relay.world = x?' at hresult
  cases hresult with
  | none => exact .none
  | some hx => exact .some (h.withRelay (h.relay.withWorld hL.failures hx))

/-- Whatever happens to both of two bridges that are alike, they stay so. -/
theorem step (hL : L.Holds occur) (h : b.Alike L b') (e : BridgeEvent ε) :
    (b.step occur e).Alike L (b'.step occur e) := by
  have orElse {b? b?' : Option (Bridge ω)} (hb : Option.Rel (Bridge.Alike L) b? b?') :
      (b?.getD b).Alike L (b?'.getD b') := by
    cases hb with
    | none => exact h
    | some hb => exact hb
  cases e with
  | start run => exact h.start hL run
  | abort signal reason => exact h.abort hL signal reason
  | elapse duration => exact h.elapse hL duration
  | endpoint event => exact orElse (h.occur? hL event)
  | turn => exact orElse (h.turn? hL)

theorem after (hL : L.Holds occur) (h : b.Alike L b') (events : List (BridgeEvent ε)) :
    (b.after occur events).Alike L (b'.after occur events) := by
  induction events generalizing b b' with
  | nil => exact h
  | cons e events ih => exact ih (h.step hL e)

end

end Bridge.Alike

end TelemetryBridge
