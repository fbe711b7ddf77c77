import TelemetryBridge.Proofs.SessionEnds

/-!
# Rounds of a subscribe session

A subscribe session opens its stream, sends the request, and then goes round: it asks for an update,
hands it over, and asks for the next one when somebody has taken it. `Stage` lists where it can be in
this, with what it has said, what waits or is underway at the hand-off, and what has been taken.
-/

namespace TelemetryBridge

namespace SubscribeSession

/-- What passes between a session and those it calls. -/
inductive Exchange where
  | opened
  | asked (command : Command)
  | answered (reply : Reply)

namespace Exchange

/-- Whether a reply is to this call. -/
def awaits : Exchange → Reply → Bool
  | asked .sendRequest, .requestSent _ | asked .receive, .received _
  | asked (.offer _), .offered _ => true
  | _, _ => false

/-- The update that a call for one has returned. -/
def update? : Exchange → Option Update
  | answered (.received (.ok update)) => update
  | _ => none

def isOpened : Exchange → Bool
  | opened => true
  | _ => false

def isClose : Exchange → Bool
  | asked .close => true
  | _ => false

/-- Whether the hand-off says that an update has been taken. -/
def isFulfilled : Exchange → Bool
  | answered (.offered (.ok ())) => true
  | _ => false

end Exchange

/-- Whether the session cannot go on after a reply. -/
def Reply.fails : Reply → Bool
  | requestSent (.error _) | received (.ok none) | received (.error _) | offered (.error _) => true
  | _ => false

/-- The conversation after one more note of the history. A call is answered once: by the first reply to
it that comes while it is the last thing that was said. -/
def hear (talk : List Exchange) : Note → List Exchange
  | .opened .subscribe => talk ++ [.opened]
  | .subscriberAsked .noteRequestSent => talk
  | .subscriberAsked command => talk ++ [.asked command]
  | .subscriberTold reply =>
    if talk.getLast?.any (·.awaits reply) then talk ++ [.answered reply] else talk
  | _ => talk

lemma hear_told {talk : List Exchange} {reply : Reply}
    (h : talk.getLast?.any (·.awaits reply) = true) :
    hear talk (.subscriberTold reply) = talk ++ [.answered reply] :=
  if_pos h

lemma hear_told_unawaited {talk : List Exchange} {reply : Reply}
    (h : talk.getLast?.any (·.awaits reply) = false) : hear talk (.subscriberTold reply) = talk :=
  if_neg (by simp [h])

/-- What a session and those it calls have said to each other. -/
def conversation (history : List Note) : List Exchange := history.foldl hear []

/-- The updates that the calls for one have returned. -/
def returned (talk : List Exchange) : List Update := talk.filterMap (·.update?)

/-- An update is asked for, comes, is offered and is taken. -/
def roundOf (update : Update) : List Exchange :=
  [.asked .receive, .answered (.received (.ok (some update))), .asked (.offer update),
    .answered (.offered (.ok ()))]

/-- The conversation of a session that has handed over the given updates and goes on. -/
def rounds (updates : List Update) : List Exchange :=
  [.opened, .asked .sendRequest, .answered (.requestSent (.ok ()))] ++ updates.flatMap roundOf

/-- The last round, in which an update has been offered. -/
def offer (updates : List Update) (update : Update) : List Exchange :=
  rounds updates ++ [.asked .receive, .answered (.received (.ok (some update))),
    .asked (.offer update)]

/-- What has been taken is what was received, in order. At most one update was received and not
taken, and none counts as handed over that was not taken. -/
structure Kept (talk : List Exchange) (taken : List Update) : Prop where
  order : taken <+: returned talk
  held : (returned talk).length ≤ taken.length + 1
  fulfilled : talk.countP (·.isFulfilled) ≤ taken.length

/-- What is seen of a session: its phase and its conversation, its offers that wait at the hand-off,
the replies of the hand-off underway to it, what has been taken, and how it says it has ended. -/
structure View where
  phase : Option Phase
  talk : List Exchange := []
  senders : List (WaitingSend Party Scope Update) := []
  offered : List (Except Failure Unit) := []
  taken : List Update := []
  ends : List Failure := []

/-- Whether a session can end with a failure: its stream has failed, or its scope was cancelled. -/
def CanEnd (failure : Failure) : Prop := failure.IsOfStream ∨ ∃ reason, failure = .cancelled reason

lemma canEnd_ofStream (aborted : Option Failure) (message : String) :
    CanEnd (.ofStream aborted message) := by
  cases aborted with
  | none => exact Or.inl ⟨message, rfl⟩
  | some reason => exact Or.inr ⟨reason, rfl⟩

/-- Where the session of the relay with the given number can be. -/
inductive Stage (n : Nat) : View → Prop
  | absent : Stage n { phase := none }
  | unopened {failure : Failure} (canEnd : CanEnd failure) :
    Stage n { phase := some (.ended failure), ends := [failure] }
  | requesting : Stage n { phase := some .requesting, talk := [.opened, .asked .sendRequest] }
  | receiving (updates : List Update) :
    Stage n {
      phase := some .receiving, talk := rounds updates ++ [.asked .receive], taken := updates }
  | held (updates : List Update) (update : Update) :
    Stage n {
      phase := some (.offering update), talk := offer updates update
      senders := [⟨.subscriber n, .session, update⟩], taken := updates }
  | handed (updates : List Update) (update : Update) :
    Stage n {
      phase := some (.offering update), talk := offer updates update
      offered := [.ok ()], taken := updates ++ [update] }
  | refused (updates : List Update) (update : Update) (reason : Failure) :
    Stage n {
      phase := some (.offering update), talk := offer updates update
      offered := [.error (.cancelled reason)], taken := updates }
  | closed {going : List Exchange} {reply : Reply} {failure : Failure} {taken : List Update}
    (course : ∃ updates, going <+: rounds updates) (kept : Kept going taken)
    (awaited : going.getLast?.any (·.awaits reply) = true) (fails : reply.fails = true)
    (canEnd : CanEnd failure) :
    Stage n {
      phase := some (.ended failure), talk := going ++ [.answered reply, .asked .close], taken
      ends := [failure] }

lemma rounds_snoc (updates : List Update) (update : Update) :
    rounds (updates ++ [update]) = rounds updates ++ roundOf update := by
  simp [rounds]

lemma returned_append (talk talk' : List Exchange) :
    returned (talk ++ talk') = returned talk ++ returned talk' :=
  List.filterMap_append

lemma returned_rounds (updates : List Update) : returned (rounds updates) = updates := by
  induction updates using List.reverseRecOn with
  | nil => rfl
  | append_singleton updates update ih =>
    rw [rounds_snoc, returned_append, ih]
    rfl

lemma fulfilled_rounds (updates : List Update) :
    (rounds updates).countP (·.isFulfilled) = updates.length := by
  induction updates using List.reverseRecOn with
  | nil => rfl
  | append_singleton updates update ih =>
    rw [rounds_snoc, List.countP_append, ih, List.length_append]
    rfl

/-- Nothing in the rounds closes the stream. -/
lemma closed_rounds (updates : List Update) : (rounds updates).countP (·.isClose) = 0 := by
  induction updates using List.reverseRecOn with
  | nil => rfl
  | append_singleton updates update ih =>
    rw [rounds_snoc, List.countP_append, ih]
    rfl

lemma rounds_receiving (updates : List Update) :
    rounds updates ++ [.asked .receive] <+: rounds (updates ++ [[]]) := by
  rw [rounds_snoc]
  exact (List.prefix_append_right_inj _).mpr ⟨(roundOf []).tail, rfl⟩

lemma rounds_offer (updates : List Update) (update : Update) :
    offer updates update <+: rounds (updates ++ [update]) := by
  rw [rounds_snoc, offer]
  exact (List.prefix_append_right_inj _).mpr ⟨[.answered (.offered (.ok ()))], rfl⟩

lemma getLast?_offer (updates : List Update) (update : Update) :
    (offer updates update).getLast? = some (.asked (.offer update)) := by
  simp [offer]

lemma kept_receiving (updates : List Update) :
    Kept (rounds updates ++ [.asked .receive]) updates := by
  have hreturned : returned (rounds updates ++ [.asked .receive]) = updates := by
    rw [returned_append, returned_rounds]
    exact List.append_nil updates
  constructor
  · simp [hreturned]
  · rw [hreturned]
    exact Nat.le_succ _
  · rw [List.countP_append, fulfilled_rounds]
    exact Nat.le_refl _

lemma returned_offer (updates : List Update) (update : Update) :
    returned (offer updates update) = updates ++ [update] := by
  rw [offer, returned_append, returned_rounds]
  rfl

/-- While an update is offered it has been taken or not. -/
lemma kept_offer {updates : List Update} {update : Update} {taken : List Update}
    (h : taken = updates ∨ taken = updates ++ [update]) : Kept (offer updates update) taken := by
  have hfulfilled : (offer updates update).countP (·.isFulfilled) = updates.length := by
    rw [offer, List.countP_append, fulfilled_rounds]
    rfl
  rcases h with rfl | rfl
  · refine ⟨?_, ?_, hfulfilled.le⟩
    · rw [returned_offer]
      exact List.prefix_append _ _
    · simp [returned_offer]
  · refine ⟨?_, ?_, ?_⟩
    · simp [returned_offer]
    · simp [returned_offer]
    · simp [hfulfilled]

/-- The answer with which a session ends brings no update and hands none over. -/
lemma answered_of_fails {reply : Reply} (h : reply.fails = true) :
    (Exchange.answered reply).update? = none ∧ (Exchange.answered reply).isFulfilled = false := by
  cases reply with
  | requestSent result => exact ⟨rfl, rfl⟩
  | received result =>
    rcases result with failure | _ | update
    · exact ⟨rfl, rfl⟩
    · exact ⟨rfl, rfl⟩
    · cases h
  | offered result => cases result with
    | error failure => exact ⟨rfl, rfl⟩
    | ok _ => cases h

lemma Kept.closed {going : List Exchange} {taken : List Update} (h : Kept going taken)
    {reply : Reply} (fails : reply.fails = true) :
    Kept (going ++ [.answered reply, .asked .close]) taken := by
  obtain ⟨hupdate, hfulfilled⟩ := answered_of_fails fails
  have hreturned : returned (going ++ [.answered reply, .asked .close]) = returned going := by
    have hclose : (Exchange.asked .close).update? = none := rfl
    simp [returned, hupdate, hclose]
  refine ⟨hreturned ▸ h.order, hreturned ▸ h.held, ?_⟩
  have hclose : (Exchange.asked .close).isFulfilled = false := rfl
  simpa [hfulfilled, hclose] using h.fulfilled

lemma Stage.kept {n : Nat} {v : View} (h : Stage n v) : Kept v.talk v.taken := by
  cases h with
  | absent | unopened canEnd | requesting => exact ⟨List.nil_prefix, Nat.zero_le _, Nat.le_refl _⟩
  | receiving updates => exact kept_receiving updates
  | held updates update | refused updates update reason => exact kept_offer (Or.inl rfl)
  | handed updates update => exact kept_offer (Or.inr rfl)
  | closed course kept awaited fails canEnd => exact kept.closed fails

/-- The end of a session is told once. It is a failure. -/
lemma Stage.ends {n : Nat} {v : View} (h : Stage n v) :
    v.ends = (v.phase.bind (·.failure?)).toList ∧ ∀ failure ∈ v.ends, CanEnd failure := by
  cases h with
  | unopened canEnd | closed course kept awaited fails canEnd => exact ⟨rfl, by simpa using canEnd⟩
  | _ => exact ⟨rfl, by simp⟩

/-- What has been said is part of the rounds. Only a session whose stream was opened and that has
ended then hears why, and closes the stream. -/
lemma Stage.course {n : Nat} {v : View} (h : Stage n v) :
    ∃ updates going, going <+: rounds updates ∧
      ((v.talk = going ∧ (v.phase.bind (·.failure?) = none ∨ going = [])) ∨
        ∃ reply, (v.phase.bind (·.failure?)).isSome = true ∧ reply.fails = true ∧
          going.getLast?.any (·.awaits reply) = true ∧
          v.talk = going ++ [.answered reply, .asked .close]) := by
  cases h with
  | absent => exact ⟨[], [], List.nil_prefix, Or.inl ⟨rfl, Or.inl rfl⟩⟩
  | unopened canEnd => exact ⟨[], [], List.nil_prefix, Or.inl ⟨rfl, Or.inr rfl⟩⟩
  | requesting =>
    exact ⟨[], _, ⟨[.answered (.requestSent (.ok ()))], rfl⟩, Or.inl ⟨rfl, Or.inl rfl⟩⟩
  | receiving updates => exact ⟨_, _, rounds_receiving updates, Or.inl ⟨rfl, Or.inl rfl⟩⟩
  | held updates update | handed updates update | refused updates update reason =>
    exact ⟨_, _, rounds_offer updates update, Or.inl ⟨rfl, Or.inl rfl⟩⟩
  | closed course kept awaited fails canEnd =>
    obtain ⟨updates, hgoing⟩ := course
    exact ⟨updates, _, hgoing, Or.inr ⟨_, rfl, fails, awaited, rfl⟩⟩

/-- The stream is closed once if it was opened and the session has ended, and not otherwise. -/
lemma Stage.closing {n : Nat} {v : View} (h : Stage n v) : v.talk.countP (·.isClose) =
    if v.talk.any (·.isOpened) && (v.phase.bind (·.failure?)).isSome then 1 else 0 := by
  obtain ⟨updates, going, hgoing, hcourse⟩ := h.course
  have hopen : going.countP (·.isClose) = 0 :=
    Nat.le_zero.mp (hgoing.sublist.countP_le.trans_eq (closed_rounds updates))
  rcases hcourse with ⟨htalk, hend | hnil⟩ | ⟨reply, hended, -, awaited, htalk⟩
  · rw [htalk, hopen, hend]
    simp
  · rw [htalk, hnil]
    rfl
  · have hopened : going.any (·.isOpened) = true := by
      obtain ⟨rest, hrest⟩ := hgoing
      cases going with
      | nil => cases awaited
      | cons e going =>
        obtain rfl : e = .opened := (List.cons.inj hrest).1
        rfl
    have hreply : (Exchange.answered reply).isClose = false := rfl
    have hclose : (Exchange.asked .close).isClose = true := rfl
    simp [htalk, hopen, hopened, hended, hreply, hclose]

/-- At most one update of a session waits at the hand-off. -/
lemma Stage.senders_cases {n : Nat} {v : View} (h : Stage n v) :
    v.senders = [] ∨ ∃ update, v.senders = [⟨.subscriber n, .session, update⟩] := by
  cases h with
  | held updates update => exact Or.inr ⟨update, rfl⟩
  | _ => exact Or.inl rfl

section

variable {n : Nat} {v : View}

/-- Somebody takes the update that waits longest. -/
lemma Stage.take (h : Stage n v) {w : WaitingSend Party Scope Update}
    {rest : List (WaitingSend Party Scope Update)} (hw : v.senders = w :: rest) :
    w.call = .subscriber n ∧ rest = [] ∧ Stage n { v with
      senders := rest, offered := v.offered ++ [.ok ()], taken := v.taken ++ [w.value] } := by
  cases h with
  | held updates update =>
    cases hw
    exact ⟨rfl, rfl, .handed updates update⟩
  | _ => cases hw

/-- The session's offers are cancelled. -/
lemma Stage.drop (h : Stage n v) (reason : Failure) : Stage n { v with
    senders := [], offered := v.offered ++ v.senders.map fun _ => .error (.cancelled reason) } := by
  have hv := h
  cases h with
  | held updates update => exact .refused updates update reason
  | _ => exact hv

/-- The hand-off answers while an update is offered. -/
lemma Stage.answered {result : Except Failure Unit}
    (h : Stage n { v with offered := result :: v.offered }) :
    ∃ updates update,
      (result = .ok () ∧ v = {
        phase := some (.offering update), talk := offer updates update
        taken := updates ++ [update] }) ∨
      ∃ reason, result = .error (.cancelled reason) ∧ v = {
        phase := some (.offering update), talk := offer updates update, taken := updates } := by
  obtain ⟨phase, talk, senders, offered, taken, ends⟩ := v
  generalize hx : View.mk phase talk senders (result :: offered) taken ends = x at h
  cases h with
  | handed updates update =>
    obtain ⟨rfl, rfl, rfl, ⟨rfl, rfl⟩, rfl, rfl⟩ := by simpa using hx
    exact ⟨_, _, Or.inl ⟨rfl, rfl⟩⟩
  | refused updates update reason =>
    obtain ⟨rfl, rfl, rfl, ⟨rfl, rfl⟩, rfl, rfl⟩ := by simpa using hx
    exact ⟨_, _, Or.inr ⟨reason, rfl, rfl⟩⟩
  | _ => simp at hx

end

end SubscribeSession

end TelemetryBridge
