import UniMrcp.Rtsp.ServerSteps

/-!
# The requests of a server session

The requests that have come in for a session are those that have been answered,
followed by those that wait.  `Served` is the invariant behind this, and
`Judged` says of each function of the session whether it keeps the invariant or
spoils it for good: the response to a request that cannot be handled is sent,
but the request stays active, and a session that ends takes its queue with it.
-/

namespace UniMrcp.Rtsp

open UniMrcp.Apt

/-- The responses that have been sent for a session. -/
def ServerSession.answers (session : ServerSession) : List Message :=
  session.sent.filter Message.isResponse

/-- The requests of a session that have still to be answered. -/
def ServerSession.waiting (session : ServerSession) : List Message :=
  if session.destroyed = 0 then session.activeRequest.toList ++ session.requestQueue else []

/-- How a request spoils a session: the session has been destroyed and is still
in the table, or the request cannot be handled and stays active. -/
def RequestSpoils (app : Application) (session : ServerSession) (message : Message) : Prop :=
  session.destroyed ≠ 0 ∨ (session.activeRequest = none ∧ Mishandled app session message)

/-- How a response spoils a session. -/
def RespondSpoils (app : Application) (session : ServerSession) (request message : Message) :
    Prop :=
  ResponseCrashes request message ∨
    (ResponseEnds session request message ∧ session.requestQueue ≠ []) ∨
    (¬ ResponseEnds session request message ∧ ∃ next rest,
      session.requestQueue = next :: rest ∧ Mishandled app
        { session with resourceTable := respondedTable session request message } next)

/-! ## The invariant -/

/-- Where a session is. -/
inductive Stage (session : ServerSession) : Prop where
  | idle (live : session.destroyed = 0) (active : session.activeRequest = none)
      (queue : session.requestQueue = []) (going : session.terminating = false)
      (owed : session.owed = none) (asked : session.asked = 0) (ended : session.ended = 0)
  | busy (request : Message) (live : session.destroyed = 0)
      (active : session.activeRequest = some request) (going : session.terminating = false)
      (owed : session.owed = some request) (asked : session.asked = 0) (ended : session.ended = 0)
  | ending (live : session.destroyed = 0) (idle : session.activeRequest = none →
      session.requestQueue = []) (going : session.terminating = true)
      (owed : session.owed = none) (asked : session.asked = 1) (ended : session.ended = 0)
  | gone (dead : session.destroyed ≠ 0) (stale : session.terminating = false →
      session.activeRequest.isSome = true) (owed : session.owed = none)
      (done : session.asked = session.ended)

/-- The invariant of a session. -/
structure Served (session : ServerSession) : Prop where
  accounts : session.accepted.map Message.carried =
    (session.answers ++ session.waiting).map Message.carried
  order : session.handed ++ (if session.destroyed = 0 then session.requestQueue else []) =
    session.accepted
  stage : Stage session

/-- A session whose active request has just been set. -/
structure Ready (session : ServerSession) (message : Message) : Prop where
  active : session.activeRequest = some message
  accounts : session.accepted.map Message.carried =
    (session.answers ++ message :: session.requestQueue).map Message.carried
  order : session.handed ++ message :: session.requestQueue = session.accepted
  live : session.destroyed = 0
  going : session.terminating = false
  owed : session.owed = none
  asked : session.asked = 0
  ended : session.ended = 0

/-- There are not as many answers as there should be. -/
def Unbalanced (session : ServerSession) : Prop :=
  session.accepted.length ≠ session.answers.length + session.waiting.length

/-- Requests wait, but none is active, and the application has none in hand. -/
def Stranded (session : ServerSession) : Prop :=
  session.waiting ≠ [] ∧ session.activeRequest = none ∧ session.owed = none

section Session

variable {app : Application} {session session' : ServerSession} {message request : Message}

theorem not_unbalanced (h : session.accepted.map Message.carried =
    (session.answers ++ session.waiting).map Message.carried) : ¬ Unbalanced session := by
  have hlength := congrArg List.length h
  rw [List.length_map, List.length_map, List.length_append] at hlength
  exact fun hne => hne hlength

theorem waiting_live (hlive : session.destroyed = 0) :
    session.waiting = session.activeRequest.toList ++ session.requestQueue := if_pos hlive

theorem waiting_over (hdead : session.destroyed ≠ 0) : session.waiting = [] := if_neg hdead

section

variable (hlive : session.destroyed = 0) (hactive : session.activeRequest = some request)
include hlive hactive

theorem waiting_active : session.waiting = request :: session.requestQueue := by
  rw [waiting_live hlive, hactive]
  rfl

theorem accounts_active
    (h : session.accepted.map Message.carried =
      (session.answers ++ request :: session.requestQueue).map Message.carried) :
    session.accepted.map Message.carried =
      (session.answers ++ session.waiting).map Message.carried := by
  rw [waiting_active hlive hactive]
  exact h

/-- The active request has been answered, but it is still active. -/
theorem unbalanced_active {answered : List Message} {reply : Message}
    (hanswers : session.answers = answered ++ [reply])
    (haccepted : session.accepted.map Message.carried =
      (answered ++ request :: session.requestQueue).map Message.carried) :
    Unbalanced session := by
  have hlength := congrArg List.length haccepted
  rw [Unbalanced, waiting_active hlive hactive, hanswers]
  simp only [List.length_map, List.length_append, List.length_cons, List.length_nil] at hlength ⊢
  omega

end

/-- What becomes of a session that a function works on: it stays served unless
the function spoils it. -/
inductive Judged (spoils : Prop) (accepted : List Message) : Option ServerSession → Prop where
  | served {session : ServerSession} (well : ¬ spoils) (taken : session.accepted = accepted)
      (served : Served session) : Judged spoils accepted (some session)
  | crashed (bad : spoils) : Judged spoils accepted none
  | lost {session : ServerSession} (bad : spoils) (wrong : Unbalanced session ∨ Stranded session) :
      Judged spoils accepted (some session)

/-- The message handler on an open connection. -/
theorem Ready.handle (h : Ready session message) {handled : Bool}
    (hhandle : rtspServerSessionMessageHandle app true session message =
      some (session', handled)) :
    session'.accepted = session.accepted ∧
      ((handled = true ∧ ¬ Mishandled app session message ∧ Served session') ∨
        (handled = false ∧ Mishandled app session message ∧ Unbalanced session' ∧
          (session.requestQueue = [] →
            Served { session' with destroyed := session'.destroyed + 1 }))) := by
  obtain ⟨hactive, haccounts, horder, hlive, hgoing, howed, hasked, hended⟩ := h
  have hcase := messageHandle_case app true session message
  rw [hhandle] at hcase
  cases hcase with
  | last table well teardown =>
    refine ⟨rfl, .inl ⟨rfl, well, ?_, ?_, ?_⟩⟩
    · exact accounts_active hlive hactive haccounts
    · simpa [rtspServerSessionTerminateRequest, hlive] using horder
    · exact .ending hlive (fun hnone => by cases hactive.symm.trans hnone) rfl howed
        (congrArg (· + 1) hasked) hended
  | taken table well more =>
    refine ⟨rfl, .inl ⟨rfl, well, ?_, ?_, ?_⟩⟩
    · exact accounts_active hlive hactive haccounts
    · simpa [hlive] using horder
    · exact .busy message hlive hactive hgoing rfl hasked hended
  | failed table mishandled more =>
    have hanswers : (ServerSession.send true { session with
        resourceTable := table, handed := session.handed ++ [message] }
          (handleError message)).answers = session.answers ++ [handleError message] := by
      simp [ServerSession.send, ServerSession.answers, handleError, responseCreate_isResponse]
    refine ⟨rfl, .inr ⟨rfl, mishandled, ?_, fun hqueue => ⟨?_, ?_, ?_⟩⟩⟩
    · exact unbalanced_active hlive hactive hanswers haccounts
    · rw [waiting_over (Nat.succ_ne_zero _), List.append_nil]
      refine haccounts.trans ?_
      rw [hqueue, List.map_append, List.map_singleton,
        ← responseCreate_carried message statusCodeInternalServerError
          reasonPhraseInternalServerError, ← List.map_singleton, ← List.map_append]
      exact congrArg _ hanswers.symm
    · simpa [ServerSession.send, hqueue] using horder
    · exact .gone (Nat.succ_ne_zero _) (fun _ => by simp [ServerSession.send, hactive])
        howed (hasked.trans hended.symm)

theorem Ready.judged (app : Application) (h : Ready session message) :
    Judged (Mishandled app session message) session.accepted
      ((rtspServerSessionMessageHandle app true session message).map Prod.fst) := by
  cases hhandle : rtspServerSessionMessageHandle app true session message with
  | none =>
    have hcase := messageHandle_case app true session message
    rw [hhandle] at hcase
    cases hcase with
    | crashed mishandled => exact .crashed mishandled
  | some result =>
    rcases h.handle hhandle with ⟨htaken, ⟨-, hwell, hserved⟩ | ⟨-, hmis, hlost, -⟩⟩
    · exact .served hwell htaken hserved
    · exact .lost hmis (.inl hlost)

theorem Judged.iff {spoils spoils' : Prop} {accepted : List Message}
    {result : Option ServerSession} (h : Judged spoils accepted result)
    (hiff : spoils ↔ spoils') : Judged spoils' accepted result := by
  rwa [propext hiff] at h

section

variable (message : Message) (h : Served session)
include h

/-- A request waits in the queue of a session. -/
theorem Served.enqueue (hlive : session.destroyed = 0) (hgoing : session.terminating = false)
    (hactive : session.activeRequest = some request) :
    Served { session with
      accepted := session.accepted ++ [message]
      requestQueue := session.requestQueue ++ [message] } := by
  refine ⟨accounts_active hlive hactive ?_, ?_, ?_⟩
  · have haccounts := h.accounts
    rw [waiting_active hlive hactive] at haccounts
    simpa [ServerSession.answers] using congrArg (· ++ [message.carried]) haccounts
  · have horder := h.order
    simp [hlive, ← horder]
  · cases h.stage with
    | idle live active => cases hactive.symm.trans active
    | busy owner live active going owed asked ended =>
      exact .busy owner live active going owed asked ended
    | ending live idle going => cases hgoing.symm.trans going
    | gone dead => exact absurd hlive dead

/-- A request is lost on a session that has been destroyed. -/
theorem Served.lost (hdead : session.destroyed ≠ 0) (queue : List Message) :
    Unbalanced { session with
      accepted := session.accepted ++ [message], requestQueue := queue } := by
  have hlength := congrArg List.length h.accounts
  rw [waiting_over hdead, List.append_nil, List.length_map, List.length_map] at hlength
  rw [Unbalanced, waiting_over (by exact hdead), List.length_append, hlength]
  exact (Nat.lt_succ_self _).ne'

/-- A request is the first of a session that is idle. -/
theorem Served.ready (hlive : session.destroyed = 0) (hgoing : session.terminating = false)
    (hactive : session.activeRequest = none) :
    Ready { session with
      accepted := session.accepted ++ [message], activeRequest := some message } message := by
  cases h.stage with
  | busy request live active => cases hactive.symm.trans active
  | ending live idle going => cases hgoing.symm.trans going
  | gone dead => exact absurd hlive dead
  | idle live active queue going owed asked ended =>
    refine ⟨rfl, ?_, ?_, live, going, owed, asked, ended⟩
    · have haccounts := h.accounts
      rw [waiting_live live, active] at haccounts
      simpa [ServerSession.answers, queue] using haccounts
    · simpa [live, queue] using h.order

end

/-- A request that comes in for a session. -/
theorem Served.request_judged (app : Application) (message : Message) (h : Served session)
    (hgoing : session.terminating = false) :
    Judged (RequestSpoils app session message) (session.accepted ++ [message])
      (sessionRequest app true session message) := by
  unfold sessionRequest
  rcases Option.eq_none_or_eq_some session.activeRequest with hactive | ⟨request, hactive⟩
  · rw [if_neg (by simp [hactive])]
    have hlive : session.destroyed = 0 := by
      cases h.stage with
      | gone dead stale => simpa [hactive] using stale hgoing
      | idle live => exact live
      | busy request live => exact live
      | ending live => exact live
    exact ((h.ready message hlive hgoing hactive).judged app).iff
      ⟨fun hmis => .inr ⟨hactive, hmis⟩, fun hbad => hbad.elim (absurd hlive) And.right⟩
  · rw [if_pos (by simp [hactive])]
    by_cases hlive : session.destroyed = 0
    · refine .served (fun hbad => ?_) rfl (h.enqueue message hlive hgoing hactive)
      rcases hbad with hdead | ⟨hnone, -⟩
      · exact hdead hlive
      · cases hactive.symm.trans hnone
    · exact .lost (.inl hlive) (.inl (h.lost message hlive _))

/-- The first request of a new session never spoils it: a session whose request
cannot be handled is destroyed, and the request has been answered. -/
theorem first_judged (app : Application) (id : Bytes)
    (hmethod : message.methodId ≠ .teardown) :
    Judged False [message] (sessionFirst app true (rtspServerSessionCreate id) message) := by
  have hready : Ready { rtspServerSessionCreate id with
      activeRequest := some message, accepted := [message] } message :=
    ⟨rfl, rfl, rfl, rfl, rfl, rfl, rfl, rfl⟩
  unfold sessionFirst
  cases hhandle : rtspServerSessionMessageHandle app true { rtspServerSessionCreate id with
      activeRequest := some message
      accepted := (rtspServerSessionCreate id).accepted ++ [message] } message with
  | none =>
    rw [rtspServerSessionMessageHandle, if_neg hmethod] at hhandle
    cases hhandle
  | some result =>
    obtain ⟨session, handled⟩ := result
    rcases hready.handle hhandle with ⟨htaken, ⟨rfl, -, hserved⟩ | ⟨rfl, -, -, hserved⟩⟩
    · exact .served not_false htaken hserved
    · exact .served not_false htaken (hserved rfl)

theorem sessionResponse_carried (session : ServerSession) (request message : Message) :
    (sessionResponse session request message).carried = message.carried := by
  unfold sessionResponse
  split
  · rfl
  · exact setSessionId_carried message session.id

section

variable (session : ServerSession) (request : Message) (hmessage : message.isResponse = true)
include hmessage

theorem sessionResponse_isResponse :
    (sessionResponse session request message).isResponse = true := by
  unfold sessionResponse
  split
  · exact hmessage
  · exact hmessage

theorem respondedSession_answers :
    (respondedSession true session request message).answers =
      session.answers ++ [sessionResponse session request message] := by
  simp [respondedSession, ServerSession.send, ServerSession.answers,
    sessionResponse_isResponse session request hmessage]

end

/-- The response to the active request is one answer more. -/
theorem respondedSession_accounts {rest : List Message} (hmessage : message.isResponse = true)
    (hcarried : message.carried = request.carried)
    (h : session.accepted.map Message.carried =
      (session.answers ++ request :: rest).map Message.carried) :
    session.accepted.map Message.carried =
      ((respondedSession true session request message).answers ++ rest).map Message.carried := by
  rw [h, respondedSession_answers session request hmessage]
  simp [sessionResponse_carried, hcarried]

/-- A session whose active request has just been answered. -/
structure Freed (session : ServerSession) : Prop where
  accounts : session.accepted.map Message.carried =
    (session.answers ++ session.requestQueue).map Message.carried
  order : session.handed ++ session.requestQueue = session.accepted
  live : session.destroyed = 0
  going : session.terminating = false
  owed : session.owed = none
  asked : session.asked = 0
  ended : session.ended = 0

theorem Served.freed (h : Served session) (hactive : session.activeRequest = some request)
    (howed : session.owed = some request) (hmessage : message.isResponse = true)
    (hcarried : message.carried = request.carried) :
    Freed (respondedSession true session request message) := by
  cases h.stage with
  | idle live active => cases hactive.symm.trans active
  | ending live idle going owed => cases howed.symm.trans owed
  | gone dead stale owed => cases howed.symm.trans owed
  | busy owner live active going owed asked ended =>
    have haccounts := h.accounts
    rw [waiting_active live hactive] at haccounts
    have horder := h.order
    rw [if_pos live] at horder
    exact ⟨respondedSession_accounts hmessage hcarried haccounts, horder, live, going, rfl, asked,
      ended⟩

/-- The answer ends the session. -/
theorem Freed.ended_judged (h : Freed session) :
    Judged (session.requestQueue ≠ []) session.accepted
      (some (rtspServerSessionTerminateRequest { session with activeRequest := none })) := by
  by_cases hqueue : session.requestQueue = []
  · refine .served (fun hbad => hbad hqueue) rfl ⟨?_, ?_, ?_⟩
    · rw [waiting_live (by exact h.live)]
      exact h.accounts
    · rw [if_pos (by exact h.live)]
      exact h.order
    · exact .ending h.live (fun _ => hqueue) rfl h.owed (congrArg (· + 1) h.asked) h.ended
  · refine .lost hqueue (.inr ⟨?_, rfl, h.owed⟩)
    rw [waiting_live (by exact h.live)]
    exact hqueue

/-- The next request of the queue. -/
theorem Freed.next_judged (app : Application) (h : Freed session) :
    Judged (∃ next rest, session.requestQueue = next :: rest ∧ Mishandled app session next)
      session.accepted (requestNext app true session) := by
  have haccounts := h.accounts
  have horder := h.order
  unfold requestNext
  cases hqueue : session.requestQueue with
  | nil =>
    rw [hqueue] at haccounts horder
    refine .served (fun ⟨_, _, hcons, _⟩ => by cases hcons) rfl ⟨?_, ?_, ?_⟩
    · rw [waiting_live (by exact h.live)]
      exact haccounts
    · rw [if_pos (by exact h.live)]
      exact horder
    · exact .idle h.live rfl rfl h.going h.owed h.asked h.ended
  | cons next queue =>
    rw [hqueue] at haccounts horder
    have hready : Ready { session with activeRequest := some next, requestQueue := queue } next :=
      ⟨rfl, haccounts, horder, h.live, h.going, h.owed, h.asked, h.ended⟩
    refine (hready.judged app).iff ⟨fun hmis => ⟨next, queue, rfl, hmis⟩, ?_⟩
    rintro ⟨next', rest', hcons, hmis⟩
    cases hcons
    exact hmis

/-- The application responds to the request that it has taken. -/
theorem Served.respond_judged (app : Application) (h : Served session)
    (hactive : session.activeRequest = some request) (howed : session.owed = some request)
    (hmessage : message.isResponse = true) (hcarried : message.carried = request.carried) :
    Judged (RespondSpoils app session request message) session.accepted
      (rtspServerSessionResponseProcess app true session message) := by
  have hfreed := h.freed hactive howed hmessage hcarried
  have hcase := responseProcess_case app true (isRequest_of_isResponse hmessage) hactive
  generalize rtspServerSessionResponseProcess app true session message = result at hcase ⊢
  cases hcase with
  | crashed crashes => exact .crashed (.inl crashes)
  | ended goes ends =>
    refine hfreed.ended_judged.iff ⟨fun hqueue => .inr (.inl ⟨ends, hqueue⟩), fun hbad => ?_⟩
    rcases hbad with hcrash | ⟨-, hqueue⟩ | ⟨hmore, -⟩
    · exact absurd hcrash goes
    · exact hqueue
    · exact absurd ends hmore
  | next goes more =>
    refine (hfreed.next_judged app).iff ⟨fun hmis => .inr (.inr ⟨more, hmis⟩), fun hbad => ?_⟩
    rcases hbad with hcrash | ⟨hends, -⟩ | ⟨-, hmis⟩
    · exact absurd hcrash goes
    · exact absurd hends more
    · exact hmis

theorem Served.send (h : Served session) (hmessage : message.isResponse = false) :
    Served (session.send true message) := by
  have hanswers : (session.send true message).answers = session.answers := by
    simp [ServerSession.send, ServerSession.answers, hmessage]
  refine ⟨?_, h.order, ?_⟩
  · rw [hanswers]
    exact h.accounts
  · cases h.stage with
    | idle live active queue going owed asked ended =>
      exact .idle live active queue going owed asked ended
    | busy request live active going owed asked ended =>
      exact .busy request live active going owed asked ended
    | ending live idle going owed asked ended => exact .ending live idle going owed asked ended
    | gone dead stale owed done => exact .gone dead stale owed done

/-- An event is no answer. -/
theorem Served.event (message : Message) (h : Served session)
    (hrequest : message.isRequest = true) : Served (sessionEvent true session message) := by
  unfold sessionEvent
  split
  · exact h
  · refine h.send ?_
    unfold Message.isRequest Message.requestLine at hrequest
    cases hline : message.startLine with
    | request line => simp [Message.isResponse, Message.setUrl, hline]
    | response line => simp [hline] at hrequest
    | unknown => simp [hline] at hrequest

/-- The response to the TEARDOWN of the last resource. -/
def endReply (session : ServerSession) (request : Message) : Message :=
  (rtspResponseCreate request statusCodeOk reasonPhraseOk).setSessionId session.id

theorem sessionEnd_idle (sock : Bool) (hactive : session.activeRequest = none) :
    sessionEnd sock session =
      { session with ended := session.ended + 1, destroyed := session.destroyed + 1 } := by
  simp [sessionEnd, hactive]

theorem sessionEnd_active (hactive : session.activeRequest = some request) :
    sessionEnd true session = { session with
      sent := session.sent ++ [endReply session request]
      ended := session.ended + 1
      destroyed := session.destroyed + 1 } := by
  simp [sessionEnd, hactive, ServerSession.send, endReply]

theorem endReply_carried (session : ServerSession) (request : Message) :
    (endReply session request).carried = request.carried :=
  (setSessionId_carried _ _).trans (responseCreate_carried _ _ _)

theorem endReply_isResponse (session : ServerSession) (request : Message) :
    (endReply session request).isResponse = true :=
  responseCreate_isResponse request statusCodeOk reasonPhraseOk

theorem sessionEnd_answers (hactive : session.activeRequest = some request) :
    (sessionEnd true session).answers = session.answers ++ [endReply session request] := by
  rw [sessionEnd_active hactive]
  simp [ServerSession.answers, endReply_isResponse]

/-- The end of the termination: the active request is answered, and those that
wait behind it are not. -/
theorem Served.end_judged (h : Served session) (hasked : session.ended < session.asked) :
    Judged (session.requestQueue ≠ []) session.accepted (some (sessionEnd true session)) := by
  cases h.stage with
  | idle live active queue going owed asked ended => omega
  | busy request live active going owed asked ended => omega
  | gone dead stale owed done => omega
  | ending live idle going owed asked ended =>
    have haccounts := h.accounts
    have horder := h.order
    rw [if_pos live] at horder
    have hdone : session.asked = session.ended + 1 := by omega
    rcases Option.eq_none_or_eq_some session.activeRequest with hactive | ⟨request, hactive⟩
    · have hqueue := idle hactive
      rw [waiting_live live, hactive, hqueue] at haccounts
      rw [hqueue] at horder
      rw [sessionEnd_idle true hactive]
      refine .served (fun hbad => hbad hqueue) rfl ⟨?_, horder, ?_⟩
      · exact haccounts
      · refine .gone (Nat.succ_ne_zero _) (fun hnot => ?_) owed hdone
        cases going.symm.trans hnot
    · rw [waiting_active live hactive] at haccounts
      have hanswers := sessionEnd_answers hactive
      rw [sessionEnd_active hactive] at hanswers ⊢
      by_cases hqueue : session.requestQueue = []
      · rw [hqueue] at horder haccounts
        refine .served (fun hbad => hbad hqueue) rfl ⟨?_, horder, ?_⟩
        · rw [waiting_over (Nat.succ_ne_zero _), hanswers]
          simpa [endReply_carried] using haccounts
        · refine .gone (Nat.succ_ne_zero _) (fun hnot => ?_) owed hdone
          cases going.symm.trans hnot
      · refine .lost hqueue (.inl ?_)
        have hlength := congrArg List.length haccounts
        have hpos := List.length_pos_iff.mpr hqueue
        rw [Unbalanced, waiting_over (Nat.succ_ne_zero _), hanswers]
        simp only [List.length_map, List.length_append, List.length_cons, List.length_nil]
          at hlength ⊢
        omega

end Session

end UniMrcp.Rtsp
