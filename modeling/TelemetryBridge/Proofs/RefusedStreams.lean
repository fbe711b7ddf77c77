import TelemetryBridge.Proofs.Likeness
import TelemetryBridge.Proofs.PrimaryFault

/-!
# Streams that are refused

A target that can never be subscribed to. The session whose stream could not be opened has ended
before anything else of its attempt can, so that the bridge hears of it first, and nothing else is
ever reported before a retry (`Bridge.warnings_of_refused`).
-/

namespace TelemetryBridge

/-- The failure of a subscribe session whose stream could not be opened. -/
def Failure.unopened (failure : Failure) : Failure :=
  .stream ("error from Subscribe: " ++ failure.message)

/-- Whatever has happened, the target cannot be subscribed to with a login. -/
def Refuses (ω : Type) [Endpoints ω] (login : Option Login) (cause : Failure) : Prop :=
  ∀ w : ω, (Endpoints.openSubscribe login w).1 = .error cause

/-- Whether a note tells of no retry. -/
def Note.isUnalarming (n : Note) : Bool := n.warning?.isNone

lemma Note.coversStart_isUnalarming : CoversStart isUnalarming where
  quiet n h := by
    obtain ⟨-, hwarning⟩ := isSilent_of_isQuiet h
    rw [isUnalarming, hwarning]
    rfl
  closing side := by cases side <;> rfl
  heard _ _ := rfl
  attempt _ := rfl
  opening _ _ _ := rfl
  opened _ := rfl

namespace Relay

variable {ω : Type} {r r' : Relay ω}

lemma Adds.warnings (h : r.Adds Note.isUnalarming r') :
    r'.history.filterMap Note.warning? = r.history.filterMap Note.warning? := by
  obtain ⟨ns, hs, hn⟩ := h
  have hnone : ns.filterMap Note.warning? = [] :=
    List.filterMap_eq_nil_iff.mpr fun n hm => Option.isNone_iff_eq_none.mp (hs n hm)
  rw [hn, List.filterMap_append, hnone, List.append_nil]

variable [Endpoints ω]

/-- News of an end that an answer brings about comes behind all other. -/
lemma tidings_answer (r : Relay ω) (a : Answer) : r.tidings <+: (r.answer a).tidings := by
  cases a with
  | subscriber reply =>
    rcases hl : r.isLive .subscribe
    · simp only [answer_subscriber_of_not_live hl, List.prefix_refl]
    · obtain ⟨phase, hs, hlive⟩ := exists_of_isLive_subscribe hl
      rw [answer_subscriber_of_live hs hlive, tidings_moveSubscriber]
      exact List.prefix_append _ _
  | publisher reply =>
    rcases hl : r.isLive .publish
    · simp only [answer_publisher_of_not_live hl, List.prefix_refl]
    · obtain ⟨phase, hp, hlive⟩ := exists_of_isLive_publish hl
      rw [answer_publisher_of_live hp hlive, tidings_movePublisher]
      exact List.prefix_append _ _
  | later a =>
    rw [answer, tidings_post]
    exact List.prefix_append _ _

/-- A session whose stream is refused ends as it starts. -/
lemma startSubscriber_of_refused {cause : Failure} (refused : Refuses ω r.metadata cause)
    (hc : r.cancelled? = none) :
    r.startSubscriber = ({ r with
      world := (Endpoints.openSubscribe r.metadata r.world).2
      subscriber := some (.ended cause.unopened) } : Relay ω).post
        [.ended .subscribe cause.unopened] := by
  unfold startSubscriber
  rw [hc]
  dsimp only
  rw [refused]
  rfl

/-- The news of its end is the first of the attempt. -/
lemma tidings_startPair_of_refused {cause : Failure} (refused : Refuses ω r.metadata cause)
    (hr : r.tidings = []) (status : BridgeStatus) :
    (r.startPair status).tidings.head? = some (.subscribe, cause.unopened) := by
  have hsubscriber := startSubscriber_of_refused
    (r := r.fresh.note (.opening .subscribe 2 status)) refused rfl
  unfold startPair
  generalize hr₁ : (r.fresh.note (.opening .subscribe 2 status)).startSubscriber.note
    (.opening .publish 2 status) = r₁
  rw [hsubscriber] at hr₁
  have hcancelled : r₁.cancelled? = none := by
    rw [← hr₁]
    rfl
  have htidings : r₁.tidings = [(.subscribe, cause.unopened)] := by
    rw [← hr₁]
    exact (tidings_post _ _).trans (congrArg (· ++ [(Side.subscribe, cause.unopened)]) hr)
  obtain ⟨message, -, -, hpublisher⟩ := startPublisher_ends r₁ hcancelled
  rw [hpublisher, htidings]
  rfl

end Relay

namespace Bridge

variable {ω ε : Type} {b : Bridge ω} {failure cause : Failure}

/-- Every attempt fails with the same: what is heard of first, or has been, is the given failure,
and so is whatever was reported. -/
structure FailsBy (failure : Failure) (b : Bridge ω) : Prop where
  first : b.active ≠ 0 → (b.firstFailure <|> b.relay.tidings.head?.map (·.2)) = some failure
  told : ∀ w ∈ b.relay.history.filterMap Note.warning?, w.1 = failure

lemma failsBy_create (world : ω) (request : SubscribeRequest) (metadata : Option Login)
    (policy : Backoff.Policy) (timer : Backoff.Timer) :
    (create world request metadata policy timer).FailsBy failure :=
  ⟨fun hz => absurd rfl hz, fun _ hw => absurd hw List.not_mem_nil⟩

/-- An event that begins and ends no attempt. -/
lemma FailsBy.keep (h : b.FailsBy failure) {b' : Bridge ω} (hactive : b'.active = b.active)
    (hfirst : b'.firstFailure = b.firstFailure) (htidings : b.relay.tidings <+: b'.relay.tidings)
    (hadds : b.relay.Adds Note.isUnalarming b'.relay) : b'.FailsBy failure := by
  refine ⟨fun hz => ?_, hadds.warnings ▸ h.told⟩
  have hb := h.first (hactive ▸ hz)
  obtain ⟨new, htidings⟩ := htidings
  rw [hfirst, ← htidings, List.head?_append]
  cases hf : b.firstFailure with
  | some heard => rwa [hf] at hb
  | none =>
    rw [hf] at hb
    obtain ⟨news, hnews, hfailure⟩ := Option.map_eq_some_iff.mp hb
    rw [hnews]
    exact congrArg some hfailure

/-- An event after which no session is active. -/
lemma FailsBy.rest (h : b.FailsBy failure) {b' : Bridge ω} (hactive : b'.active = 0)
    (hadds : b.relay.Adds Note.isUnalarming b'.relay) : b'.FailsBy failure :=
  ⟨fun hz => absurd hactive hz, hadds.warnings ▸ h.told⟩

/-- What is reported of an attempt is the failure that was heard of first. -/
lemma warnings_startPause (b : Bridge ω) :
    b.startPause.relay.history.filterMap Note.warning? =
      b.relay.history.filterMap Note.warning? ++ [(b.firstFailure.getD .absent, b.attempts)] := by
  simp only [startPause, note, Relay.note, List.append_assoc, List.filterMap_append]
  rfl

/-- The stop of a run is no retry. -/
lemma adds_stop {r : Relay ω} (h : r.Adds Note.isUnalarming b.relay) (run : BridgeRun) :
    r.Adds Note.isUnalarming (b.stop run).relay :=
  (h.note rfl).note rfl

variable [Endpoints ω] {occur : ε → ω → Option (List Answer × ω)}

/-- An event that begins an attempt. -/
lemma FailsBy.begin (h : b.FailsBy cause.unopened) (hb : b.relay.tidings = [])
    (refused : Refuses ω b.relay.metadata cause) {b' : Bridge ω} (hfirst : b'.firstFailure = none)
    (hr : b'.relay = (b.relay.note (.log (.attemptStarted (b.attempts + 1)))).startPair .running) :
    b'.FailsBy cause.unopened := by
  have hadds : b.relay.Adds Note.isUnalarming b'.relay := by
    rw [hr]
    exact ((Relay.Adds.refl _).note rfl).trans
      (Relay.adds_startPair Note.coversStart_isUnalarming _ .running)
  refine ⟨fun _ => ?_, hadds.warnings ▸ h.told⟩
  have hhead := Relay.tidings_startPair_of_refused
    (r := b.relay.note (.log (.attemptStarted (b.attempts + 1)))) refused hb .running
  rw [hfirst, hr, hhead]
  rfl

/-- When a bridge hears of an end, it has heard of the failure by which the attempt fails. -/
lemma FailsBy.hear (h : b.FailsBy failure) (hb : b.Lifecycle) {side : Side} {heard : Failure}
    {rest : List Delivery} (first : b.relay.underway = .ended side heard :: rest) :
    (b.hear side heard rest).firstFailure = some failure := by
  have hfirst := h.first (active_pos_of_news hb first)
  have hhead : b.relay.tidings.head? = some (side, heard) := by
    rw [Relay.tidings, first]
    rfl
  rwa [hhead] at hfirst

/-- Where the target refuses the login, every event keeps that attempts fail by that. -/
theorem FailsBy.step (h : b.FailsBy cause.unopened) (hb : b.Lifecycle)
    (refused : Refuses ω b.relay.metadata cause) (e : BridgeEvent ε) :
    (b.step occur e).FailsBy cause.unopened := by
  have course := Note.coversStart_isUnalarming.toCoversCourse
  have idle (free : b.isBusy = false) : b.active = 0 :=
    hb.active_eq_zero (Or.inl (by simpa [free] using hb.isBusy_iff))
  have paused {pause : Pause} (hp : b.pause = some pause) : b.active = 0 :=
    hb.active_eq_zero (Or.inr (Option.isSome_of_eq_some hp))
  have ht := step_transition occur b e
  generalize b.step occur e = b' at ht
  cases ht with
  | still | signalled | waited => exact h.keep rfl rfl (List.prefix_refl _) (.refl _)
  | refused => exact h.keep rfl rfl (List.prefix_refl _) ((Relay.Adds.refl _).note rfl)
  | started run free => exact h.begin (tidings_of_inactive hb (idle free)) refused rfl rfl
  | resumed duration run pause current hp =>
    exact h.begin (tidings_of_inactive hb (paused hp)) refused rfl rfl
  | declined run free => exact h.rest (idle free) (adds_stop (.refl _) run)
  | interrupted signal reason run pause fresh current own hp =>
    exact h.rest (paused hp) (adds_stop (.refl _) run)
  | completed duration run pause current hp =>
    exact h.rest (paused hp) (adds_stop (.refl _) run)
  | cancelled signal reason =>
    obtain ⟨-, -, htidings⟩ := b.relay.cancel_same reason
    exact h.keep rfl rfl (htidings ▸ List.prefix_refl _)
      (.of_continues course (Relay.continues_cancel b.relay reason))
  | occurred event result =>
    have htidings := (Relay.steady_withWorld b.relay result).tidings
    exact h.keep rfl rfl (htidings ▸ List.prefix_refl _)
      (.of_continues course (Relay.continues_withWorld b.relay result))
  | answered relay answer rest first =>
    refine h.keep rfl rfl ?_ (Relay.adds_answer course b.relay rest answer)
    rw [Relay.tidings, first]
    exact Relay.tidings_answer { b.relay with underway := rest } answer
  | guestAnswered number outcome rest first =>
    refine h.keep rfl rfl ?_ ((Relay.Adds.refl b.relay).note rfl)
    rw [Relay.tidings, first]
    exact List.prefix_refl _
  | rejected side heard rest first =>
    refine ⟨fun _ => ?_, (adds_hear course b side heard rest).warnings ▸ h.told⟩
    rw [h.hear hb first]
    rfl
  | joinedStopped side heard rest run first last =>
    exact h.rest last (adds_stop (adds_hear course b side heard rest) run)
  | joinedFailed side heard rest run first last =>
    refine ⟨fun hz => absurd last hz, fun w hw => ?_⟩
    rw [warnings_startPause, (adds_hear course b side heard rest).warnings, h.hear hb first] at hw
    rcases List.mem_append.mp hw with hw | hw
    · exact h.told w hw
    · rw [List.mem_singleton.mp hw]
      rfl

/-- Where the target refuses the login, nothing else is reported before a retry. -/
theorem warnings_of_refused {login : Option Login} (refused : Refuses ω login cause) (world : ω)
    (request : SubscribeRequest) (policy : Backoff.Policy) (timer : Backoff.Timer)
    (occur : ε → ω → Option (List Answer × ω)) (events : List (BridgeEvent ε)) :
    ∀ w ∈ ((create world request login policy timer).after occur events).relay.history.filterMap
      Note.warning?, w.1 = cause.unopened := by
  -- A bridge is like itself for as long as it keeps its login.
  have kept (b : Bridge ω) (e : BridgeEvent ε)
      (h : b.Lifecycle ∧ b.FailsBy cause.unopened ∧ b.Alike (.same ω login) b) :
      (b.step occur e).Lifecycle ∧ (b.step occur e).FailsBy cause.unopened ∧
        (b.step occur e).Alike (.same ω login) (b.step occur e) := by
    obtain ⟨hb, hfails, hself⟩ := h
    obtain ⟨hlogin, -⟩ := Prod.mk.inj hself.relay.logins
    rw [← hlogin] at refused
    exact ⟨hb.step occur e, hfails.step hb refused e, hself.step (Likeness.same_holds occur) e⟩
  obtain ⟨-, h, -⟩ := after_induction kept
    ⟨lifecycle_create world request login policy timer,
      failsBy_create world request login policy timer,
      Alike.create (L := .same ω login) rfl request policy timer⟩ events
  exact h.told

end Bridge

end TelemetryBridge
