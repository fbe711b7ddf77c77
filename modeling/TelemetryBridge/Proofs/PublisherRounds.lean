import TelemetryBridge.Proofs.SubscriberRounds

/-!
# Rounds of a publish session

A publish session opens its stream and then goes round: it takes an update from the hand-off, sends
it, and says that it has been forwarded. `Stage` lists where it can be in this, with what it has
said, what waits or is underway at the hand-off, and which offers have been fulfilled.
-/

namespace TelemetryBridge

namespace PublishSession

/-- What passes between a session and those it calls. -/
inductive Exchange where
  | opened
  | asked (command : Command)
  | answered (reply : Reply)

namespace Exchange

/-- Whether a reply is to this call. -/
def awaits : Exchange → Reply → Bool
  | asked .take, .taken _ | asked (.send _), .sent _ => true
  | _, _ => false

/-- The update that the session writes to its stream. -/
def sent? : Exchange → Option Update
  | asked (.send update) => some update
  | _ => none

/-- The update that the session says has been forwarded. -/
def forwarded? : Exchange → Option Update
  | asked (.forwarded update) => some update
  | _ => none

/-- Whether a write has been answered. -/
def isWritten : Exchange → Bool
  | answered (.sent _) => true
  | _ => false

/-- Whether a write has succeeded. -/
def isSuccess : Exchange → Bool
  | answered (.sent (.ok ())) => true
  | _ => false

def isOpened : Exchange → Bool
  | opened => true
  | _ => false

def isClose : Exchange → Bool
  | asked .close => true
  | _ => false

end Exchange

/-- Whether the session cannot go on after a reply. -/
def Reply.fails : Reply → Bool
  | taken (.error _) | sent (.error _) => true
  | _ => false

/-- The conversation after one more note of the history. A call is answered once: by the first reply
to it that comes while it is the last thing that was said. -/
def hear (talk : List Exchange) : Note → List Exchange
  | .opened .publish => talk ++ [.opened]
  | .publisherAsked .noteOpened => talk
  | .publisherAsked command => talk ++ [.asked command]
  | .publisherTold reply =>
    if talk.getLast?.any (·.awaits reply) then talk ++ [.answered reply] else talk
  | _ => talk

lemma hear_told {talk : List Exchange} {reply : Reply}
    (h : talk.getLast?.any (·.awaits reply) = true) :
    hear talk (.publisherTold reply) = talk ++ [.answered reply] :=
  if_pos h

lemma hear_told_unawaited {talk : List Exchange} {reply : Reply}
    (h : talk.getLast?.any (·.awaits reply) = false) : hear talk (.publisherTold reply) = talk :=
  if_neg (by simp [h])

/-- What a session and those it calls have said to each other. -/
def conversation (history : List Note) : List Exchange := history.foldl hear []

/-- The updates that the session has written to its stream. -/
def sentIn (talk : List Exchange) : List Update := talk.filterMap (·.sent?)

/-- The updates that the session has said have been forwarded. -/
def forwardedIn (talk : List Exchange) : List Update := talk.filterMap (·.forwarded?)

/-- An update is taken and sent, and has been forwarded. -/
def roundOf (update : Update) : List Exchange :=
  [.asked .take, .answered (.taken (.ok update)), .asked (.send update), .answered (.sent (.ok ())),
    .asked (.forwarded update)]

/-- The conversation of a session that has forwarded the given updates and goes on. -/
def rounds (updates : List Update) : List Exchange := .opened :: updates.flatMap roundOf

/-- The last round, in which an update is being sent. -/
def sending (updates : List Update) (update : Update) : List Exchange :=
  rounds updates ++ [.asked .take, .answered (.taken (.ok update)), .asked (.send update)]

/-- What a conversation has to do with the updates of the offers that have been fulfilled. They are
sent in order, and all but at most the last have been forwarded. What is forwarded has been sent, as
many updates as writes have succeeded, and at most one write has not been answered. -/
structure Kept (talk : List Exchange) (given : List Update) : Prop where
  order : sentIn talk <+: given
  held : given.length ≤ (forwardedIn talk).length + 1
  forwarded : forwardedIn talk <+: sentIn talk
  succeeded : talk.countP (·.isSuccess) = (forwardedIn talk).length
  pending : (sentIn talk).length ≤ talk.countP (·.isWritten) + 1

/-- What is seen of a session: its phase and its conversation, its calls that wait at the hand-off,
the replies of the hand-off underway to it, the updates of the offers that have been fulfilled, and
how it says it has ended. -/
structure View where
  phase : Option Phase
  talk : List Exchange := []
  receivers : List (WaitingReceive Party Scope) := []
  taken : List (Except Failure Update) := []
  given : List Update := []
  ends : List Failure := []

/-- Where the session of the relay with the given number can be. -/
inductive Stage (n : Nat) : View → Prop
  | absent : Stage n { phase := none }
  | unopened {failure : Failure} (canEnd : SubscribeSession.CanEnd failure) :
    Stage n { phase := some (.ended failure), ends := [failure] }
  | waiting (updates : List Update) :
    Stage n {
      phase := some .taking, talk := rounds updates ++ [.asked .take]
      receivers := [⟨.publisher n, .session⟩], given := updates }
  | handed (updates : List Update) (update : Update) :
    Stage n {
      phase := some .taking, talk := rounds updates ++ [.asked .take]
      taken := [.ok update], given := updates ++ [update] }
  | refused (updates : List Update) (reason : Failure) :
    Stage n {
      phase := some .taking, talk := rounds updates ++ [.asked .take]
      taken := [.error (.cancelled reason)], given := updates }
  | sending (updates : List Update) (update : Update) :
    Stage n {
      phase := some (.sending update), talk := sending updates update
      given := updates ++ [update] }
  | closed {going : List Exchange} {reply : Reply} {failure : Failure} {given : List Update}
    (course : ∃ updates, going <+: rounds updates) (kept : Kept going given)
    (all : sentIn going = given) (awaited : going.getLast?.any (·.awaits reply) = true)
    (fails : reply.fails = true) (canEnd : SubscribeSession.CanEnd failure) :
    Stage n {
      phase := some (.ended failure), talk := going ++ [.answered reply, .asked .close], given
      ends := [failure] }

lemma rounds_snoc (updates : List Update) (update : Update) :
    rounds (updates ++ [update]) = rounds updates ++ roundOf update := by
  simp [rounds]

lemma sentIn_append (talk talk' : List Exchange) :
    sentIn (talk ++ talk') = sentIn talk ++ sentIn talk' :=
  List.filterMap_append

lemma forwardedIn_append (talk talk' : List Exchange) :
    forwardedIn (talk ++ talk') = forwardedIn talk ++ forwardedIn talk' :=
  List.filterMap_append

/-- A session that goes on has sent and forwarded every update that it took. -/
lemma done_rounds (updates : List Update) :
    sentIn (rounds updates) = updates ∧ forwardedIn (rounds updates) = updates ∧
      (rounds updates).countP (·.isSuccess) = updates.length ∧
      (rounds updates).countP (·.isWritten) = updates.length := by
  induction updates using List.reverseRecOn with
  | nil => exact ⟨rfl, rfl, rfl, rfl⟩
  | append_singleton updates update ih =>
    obtain ⟨hsent, hforwarded, hsuccess, hwritten⟩ := ih
    rw [rounds_snoc, sentIn_append, forwardedIn_append, List.countP_append, List.countP_append,
      hsent, hforwarded, hsuccess, hwritten, List.length_append]
    exact ⟨rfl, rfl, rfl, rfl⟩

/-- Nothing in the rounds closes the stream. -/
lemma closed_rounds (updates : List Update) : (rounds updates).countP (·.isClose) = 0 := by
  induction updates using List.reverseRecOn with
  | nil => rfl
  | append_singleton updates update ih =>
    rw [rounds_snoc, List.countP_append, ih]
    rfl

lemma rounds_taking (updates : List Update) :
    rounds updates ++ [.asked .take] <+: rounds (updates ++ [[]]) := by
  rw [rounds_snoc]
  exact (List.prefix_append_right_inj _).mpr ⟨(roundOf []).tail, rfl⟩

lemma rounds_sending (updates : List Update) (update : Update) :
    sending updates update <+: rounds (updates ++ [update]) := by
  rw [rounds_snoc, sending]
  exact (List.prefix_append_right_inj _).mpr
    ⟨[.answered (.sent (.ok ())), .asked (.forwarded update)], rfl⟩

lemma getLast?_sending (updates : List Update) (update : Update) :
    (sending updates update).getLast? = some (.asked (.send update)) := by
  simp [sending]

lemma sentIn_taking (updates : List Update) :
    sentIn (rounds updates ++ [.asked .take]) = updates := by
  rw [sentIn_append, (done_rounds updates).1]
  exact List.append_nil updates

lemma sentIn_sending (updates : List Update) (update : Update) :
    sentIn (sending updates update) = updates ++ [update] := by
  rw [sending, sentIn_append, (done_rounds updates).1]
  rfl

/-- The reply with which a session ends writes nothing. -/
lemma sentIn_closed (going : List Exchange) (reply : Reply) :
    sentIn (going ++ [.answered reply, .asked .close]) = sentIn going := by
  rw [sentIn_append]
  exact List.append_nil _

/-- While the session waits for an update one may have been handed over. -/
lemma kept_taking {updates given : List Update}
    (h : given = updates ∨ ∃ update, given = updates ++ [update]) :
    Kept (rounds updates ++ [.asked .take]) given := by
  obtain ⟨-, hforwarded, hsuccess, hwritten⟩ := done_rounds updates
  have hforwardedIn : forwardedIn (rounds updates ++ [.asked .take]) = updates := by
    rw [forwardedIn_append, hforwarded]
    exact List.append_nil updates
  refine ⟨?_, ?_, ?_, ?_, ?_⟩
  · rw [sentIn_taking]
    rcases h with rfl | ⟨update, rfl⟩
    · exact List.prefix_rfl
    · exact List.prefix_append _ _
  · rw [hforwardedIn]
    rcases h with rfl | ⟨update, rfl⟩ <;> simp
  · simp [sentIn_taking, hforwardedIn]
  · rw [List.countP_append, hsuccess, hforwardedIn]
    rfl
  · rw [sentIn_taking, List.countP_append, hwritten]
    exact Nat.le_succ _

lemma kept_sending (updates : List Update) (update : Update) :
    Kept (sending updates update) (updates ++ [update]) := by
  obtain ⟨-, hforwarded, hsuccess, hwritten⟩ := done_rounds updates
  have hforwardedIn : forwardedIn (sending updates update) = updates := by
    rw [sending, forwardedIn_append, hforwarded]
    exact List.append_nil updates
  refine ⟨?_, ?_, ?_, ?_, ?_⟩
  · simp [sentIn_sending]
  · rw [hforwardedIn, List.length_append]
    exact Nat.le_refl _
  · rw [sentIn_sending, hforwardedIn]
    exact List.prefix_append _ _
  · rw [sending, List.countP_append, hsuccess, ← sending, hforwardedIn]
    rfl
  · rw [sentIn_sending, sending, List.countP_append, hwritten, List.length_append]
    exact Nat.le_refl _

/-- That reply forwards and completes nothing either. -/
lemma Kept.closed {going : List Exchange} {given : List Update} (h : Kept going given)
    {reply : Reply} (fails : reply.fails = true) :
    Kept (going ++ [.answered reply, .asked .close]) given := by
  have hsentIn := sentIn_closed going reply
  have hforwardedIn : forwardedIn (going ++ [.answered reply, .asked .close]) =
      forwardedIn going := by
    rw [forwardedIn_append]
    exact List.append_nil _
  have hsuccess : [Exchange.answered reply, .asked .close].countP (·.isSuccess) = 0 := by
    rcases reply with (failure | update) | (failure | _)
    · rfl
    · rfl
    · rfl
    · cases fails
  refine ⟨hsentIn ▸ h.order, hforwardedIn ▸ h.held, ?_, ?_, ?_⟩
  · rw [hsentIn, hforwardedIn]
    exact h.forwarded
  · rw [List.countP_append, hsuccess, hforwardedIn]
    exact h.succeeded
  · rw [hsentIn, List.countP_append]
    exact h.pending.trans (by omega)

section

variable {n : Nat} {v : View}

lemma Stage.kept (h : Stage n v) : Kept v.talk v.given := by
  cases h with
  | absent | unopened canEnd =>
    exact ⟨List.nil_prefix, Nat.zero_le _, List.nil_prefix, rfl, Nat.zero_le _⟩
  | waiting updates | refused updates reason => exact kept_taking (Or.inl rfl)
  | handed updates update => exact kept_taking (Or.inr ⟨update, rfl⟩)
  | sending updates update => exact kept_sending updates update
  | closed course kept all awaited fails canEnd => exact kept.closed fails

/-- A session that has ended has written the update of every offer that was fulfilled. -/
lemma Stage.all (h : Stage n v) (ended : (v.phase.bind (·.failure?)).isSome = true) :
    sentIn v.talk = v.given := by
  cases h with
  | unopened canEnd => rfl
  | closed course kept all awaited fails canEnd => exact (sentIn_closed _ _).trans all
  | _ => cases ended

/-- The end of a session is told once. It is a failure. -/
lemma Stage.ends (h : Stage n v) : v.ends = (v.phase.bind (·.failure?)).toList ∧
    ∀ failure ∈ v.ends, SubscribeSession.CanEnd failure := by
  cases h with
  | unopened canEnd | closed course kept all awaited fails canEnd =>
    exact ⟨rfl, by simpa using canEnd⟩
  | _ => exact ⟨rfl, by simp⟩

/-- What has been said is part of the rounds. Only a session whose stream was opened and that has
ended then hears why, and closes the stream. -/
lemma Stage.course (h : Stage n v) : ∃ updates going, going <+: rounds updates ∧
    ((v.talk = going ∧ (v.phase.bind (·.failure?) = none ∨ going = [])) ∨
      ∃ reply, (v.phase.bind (·.failure?)).isSome = true ∧ reply.fails = true ∧
        going.getLast?.any (·.awaits reply) = true ∧
        v.talk = going ++ [.answered reply, .asked .close]) := by
  cases h with
  | absent => exact ⟨[], [], List.nil_prefix, Or.inl ⟨rfl, Or.inl rfl⟩⟩
  | unopened canEnd => exact ⟨[], [], List.nil_prefix, Or.inl ⟨rfl, Or.inr rfl⟩⟩
  | waiting updates | handed updates update | refused updates reason =>
    exact ⟨_, _, rounds_taking updates, Or.inl ⟨rfl, Or.inl rfl⟩⟩
  | sending updates update =>
    exact ⟨_, _, rounds_sending updates update, Or.inl ⟨rfl, Or.inl rfl⟩⟩
  | closed course kept all awaited fails canEnd =>
    obtain ⟨updates, hgoing⟩ := course
    exact ⟨updates, _, hgoing, Or.inr ⟨_, rfl, fails, awaited, rfl⟩⟩

/-- The stream is closed once if it was opened and the session has ended, and not otherwise. -/
lemma Stage.closing (h : Stage n v) : v.talk.countP (·.isClose) =
    if v.talk.any (·.isOpened) && (v.phase.bind (·.failure?)).isSome then 1 else 0 := by
  obtain ⟨updates, going, hgoing, hcourse⟩ := h.course
  have hopen : going.countP (·.isClose) = 0 :=
    Nat.le_zero.mp (hgoing.sublist.countP_le.trans_eq (closed_rounds updates))
  rcases hcourse with ⟨htalk, hend | hnil⟩ | ⟨reply, hended, -, awaited, htalk⟩
  · rw [htalk, hopen, hend]
    simp
  · rw [htalk, hnil]
    rfl
  · have hopened : going.any (·.isOpened) = true := by
      obtain ⟨rest, hrest⟩ := hgoing
      cases going with
      | nil => cases awaited
      | cons e going =>
        obtain rfl : e = .opened := (List.cons.inj hrest).1
        rfl
    have hreply : (Exchange.answered reply).isClose = false := rfl
    have hclose : (Exchange.asked .close).isClose = true := rfl
    simp [htalk, hopen, hopened, hended, hreply, hclose]

/-- An offer is fulfilled while the session waits. -/
lemma Stage.give (h : Stage n v) (hw : v.receivers ≠ []) (update : Update) :
    Stage n { v with
      receivers := [], taken := v.taken ++ [.ok update], given := v.given ++ [update] } := by
  cases h with
  | waiting updates => exact .handed updates update
  | _ => exact absurd rfl hw

/-- The call of the session is cancelled. -/
lemma Stage.drop (h : Stage n v) (reason : Failure) : Stage n { v with
    receivers := [], taken := v.taken ++ v.receivers.map fun _ => .error (.cancelled reason) } := by
  have hv := h
  cases h with
  | waiting updates => exact .refused updates reason
  | _ => exact hv

/-- The hand-off answers while the session waits for an update. -/
lemma Stage.answered {result : Except Failure Update}
    (h : Stage n { v with taken := result :: v.taken }) :
    ∃ updates, (∃ update, result = .ok update ∧ v = {
        phase := some .taking, talk := rounds updates ++ [.asked .take]
        given := updates ++ [update] }) ∨
      ∃ reason, result = .error (.cancelled reason) ∧ v = {
        phase := some .taking, talk := rounds updates ++ [.asked .take], given := updates } := by
  obtain ⟨phase, talk, receivers, taken, given, ends⟩ := v
  generalize hx : View.mk phase talk receivers (result :: taken) given ends = x at h
  cases h with
  | handed updates update =>
    obtain ⟨rfl, rfl, rfl, ⟨rfl, rfl⟩, rfl, rfl⟩ := by simpa using hx
    exact ⟨_, Or.inl ⟨_, rfl, rfl⟩⟩
  | refused updates reason =>
    obtain ⟨rfl, rfl, rfl, ⟨rfl, rfl⟩, rfl, rfl⟩ := by simpa using hx
    exact ⟨_, Or.inr ⟨reason, rfl, rfl⟩⟩
  | _ => simp at hx

end

end PublishSession

end TelemetryBridge
