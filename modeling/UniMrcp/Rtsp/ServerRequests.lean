import Mathlib.Data.List.Perm.Basic
import UniMrcp.Lib.Runs
import UniMrcp.Rtsp.ServerServed

/-!
# Every request is answered once

On an open connection every request that comes in is refused with one response,
or it goes to one session.  The requests of a session are given to the
application one at a time in the order of their arrival, and each is answered
with one response that carries its CSeq.

`Spoils` lists the steps after which this does not hold any more.
-/

namespace UniMrcp.Rtsp

open UniMrcp.Lib UniMrcp.Lib.Runs UniMrcp.Apt

/-- The application may send the message for the session: a response to the
request that it has taken, with the CSeq of that request, or an event. -/
def RespondPermitted (session : ServerSession) (message : Message) : Prop :=
  session.ended = 0 ∧ (message.isRequest = true → session.destroyed = 0) ∧
    (message.isRequest = false → ∃ request ∈ session.owed,
      message.isResponse = true ∧ message.carried = request.carried)

instance (session : ServerSession) (message : Message) :
    Decidable (RespondPermitted session message) :=
  inferInstanceAs (Decidable (_ ∧ _))

/-- What the application does: it responds once to each request that it has
taken, it ends each termination once, and it does not use a session after
that. -/
def AppPermitted (connection : ServerConnection) : ServerInput → Prop
  | .respond j message => ∃ session ∈ connection.sessions[j]?, RespondPermitted session message
  | .terminate j => ∃ session ∈ connection.sessions[j]?, session.ended < session.asked
  | _ => True

instance (connection : ServerConnection) :
    (input : ServerInput) → Decidable (AppPermitted connection input)
  | .receive _ => isTrue trivial
  | .invalid _ => isTrue trivial
  | .respond _ _ => inferInstanceAs (Decidable (∃ session ∈ _, _))
  | .terminate _ => inferInstanceAs (Decidable (∃ session ∈ _, _))
  | .close => isTrue trivial

/-- The connection stays open. -/
def OpenPermitted (connection : ServerConnection) (input : Application × ServerInput) : Prop :=
  AppPermitted connection input.2 ∧ input.2 ≠ .close

instance (connection : ServerConnection) (input : Application × ServerInput) :
    Decidable (OpenPermitted connection input) :=
  inferInstanceAs (Decidable (_ ∧ _))

/-- The next response of the session carries the CSeq of the request. -/
def Replied (connection connection' : ServerConnection) (j : Nat) (request : Message) : Prop :=
  ∃ session session' more, connection.sessions[j]? = some session ∧
    connection'.sessions[j]? = some session' ∧ session'.answers.map Message.carried =
      session.answers.map Message.carried ++ request.carried :: more

/-- The application has the request in hand, or it has to end the termination
that the request asks for; what it does answers the request. -/
def Due (connection : ServerConnection) (j : Nat) (session : ServerSession) (request : Message) :
    Prop :=
  (∃ taken, session.owed = some taken ∧ ∀ app message, message.isResponse = true →
    message.carried = taken.carried → ∃ connection',
      serverStep connection (app, .respond j message) = some connection' ∧
      (connection'.crashed = true ∨ Replied connection connection' j request)) ∨
  (session.ended < session.asked ∧ ∀ app, ∃ connection',
    serverStep connection (app, .terminate j) = some connection' ∧
    Replied connection connection' j request)

/-- The requests of one session. -/
structure SessionServed (connection : ServerConnection) (j : Nat) (session : ServerSession) :
    Prop where
  once : session.accepted.map Message.carried =
    (session.answers ++ session.waiting).map Message.carried
  order : session.handed <+: session.accepted
  single : session.handed.length ≤ session.answers.length + 1
  due : ∀ request rest, session.waiting = request :: rest → Due connection j session request

/-- Every request is refused with one response, or it goes to one session. -/
def RequestsServed (connection : ServerConnection) : Prop :=
  connection.crashed = false ∧
  connection.received.Perm
    (connection.refused ++ connection.sessions.flatMap ServerSession.accepted) ∧
  connection.refused.map Message.carried = connection.refusals.map Message.carried ∧
  ∀ j session, connection.sessions[j]? = some session → SessionServed connection j session

/-- The steps that lose a request, or answer one twice. -/
def Spoils (connection : ServerConnection) (input : Application × ServerInput) : Prop :=
  match input.2 with
  | .receive message => message.isRequest = true ∧
      if rtspHeaderPropertyCheck message.header .sessionId then
        ∃ j session, connection.sessionTable.lookup message.header.sessionId = some j ∧
          connection.sessions[j]? = some session ∧ session.terminating = false ∧
          RequestSpoils input.1 session message
      else message.methodId ≠ .setup ∧ message.methodId ≠ .describe
  | .respond j message => message.isRequest = false ∧ ∃ session request,
      connection.sessions[j]? = some session ∧ session.activeRequest = some request ∧
      RespondSpoils input.1 session request message
  | .terminate j => ∃ session, connection.sessions[j]? = some session ∧ session.requestQueue ≠ []
  | _ => False

/-! ## The connection -/

/-- The invariant of an open connection, with the requests that have come in and
have been neither refused nor taken. -/
structure Serving (pending : List Message) (connection : ServerConnection) : Prop where
  sock : connection.sock = true
  going : connection.crashed = false
  table : ∀ id j, connection.sessionTable.lookup id = some j → j < connection.sessions.length
  received : connection.received.Perm
    (pending ++ (connection.refused ++ connection.sessions.flatMap ServerSession.accepted))
  refusals : connection.refused.map Message.carried = connection.refusals.map Message.carried
  served : ∀ session ∈ connection.sessions, Served session

section Connection

variable {connection : ServerConnection} {session session' : ServerSession} {j : Nat}
variable {pending : List Message} {message : Message} {request : Message}

theorem flatMap_set_perm {sessions : List ServerSession} {more : List Message}
    (hj : sessions[j]? = some session) (haccepted : session'.accepted = session.accepted ++ more) :
    (more ++ sessions.flatMap ServerSession.accepted).Perm
      ((sessions.set j session').flatMap ServerSession.accepted) := by
  induction sessions generalizing j with
  | nil => cases hj
  | cons first sessions ih =>
    cases j with
    | zero =>
      cases hj
      simp only [List.set_cons_zero, List.flatMap_cons, haccepted, List.append_assoc]
      exact List.perm_append_comm_assoc _ _ _
    | succ j => exact (List.perm_append_comm_assoc _ _ _).trans ((ih hj).append_left _)

theorem serverStep_respond (app : Application) (message : Message)
    (hgoing : connection.crashed = false) (hj : connection.sessions[j]? = some session) :
    serverStep connection (app, .respond j message) = some (connection.keep j
      (rtspServerSessionResponseProcess app connection.sock session message)) := by
  simp [serverStep, hgoing, hj]

theorem serverStep_terminate (app : Application) (hgoing : connection.crashed = false)
    (hj : connection.sessions[j]? = some session) :
    serverStep connection (app, .terminate j) =
      some (rtspServerSessionDoTerminate connection j session) := by
  simp [serverStep, hgoing, hj]

/-- What is lost is seen at once. -/
theorem not_requestsServed (hj : connection.sessions[j]? = some session)
    (hwrong : Unbalanced session ∨ Stranded session) : ¬ RequestsServed connection := by
  rintro ⟨hgoing, -, -, hserved⟩
  have hsession := hserved j session hj
  rcases hwrong with hunbalanced | ⟨hwaiting, hactive, howed⟩
  · exact not_unbalanced hsession.once hunbalanced
  · obtain ⟨request, rest, hcons⟩ := List.exists_cons_of_ne_nil hwaiting
    rcases hsession.due request rest hcons with ⟨taken, htaken, -⟩ | ⟨-, hend⟩
    · cases howed.symm.trans htaken
    · -- without an active request the end of the termination sends nothing
      obtain ⟨connection', hstep, before, after, more, hbefore, hafter, hreplied⟩ :=
        hend ⟨true, true, []⟩
      cases hj.symm.trans hbefore
      cases (serverStep_terminate _ hgoing hj).symm.trans hstep
      have hlength := (List.getElem?_eq_some_iff.mp hj).1
      rw [rtspServerSessionDoTerminate, List.getElem?_set_self hlength,
        sessionEnd_idle _ hactive] at hafter
      cases hafter
      have hmore := congrArg List.length hreplied
      simp [ServerSession.answers] at hmore

/-- The requests are served behind a step exactly if it does not spoil them. -/
def ServedUnless (spoils : Prop) (connection : ServerConnection) : Prop :=
  (¬ spoils → Serving [] connection) ∧ (spoils → ¬ RequestsServed connection)

/-- A session that is worked on.  A crash is seen at once, and so is what is
lost. -/
theorem Serving.keep {spoils : Prop} {result : Option ServerSession}
    (h : Serving pending connection) (hj : connection.sessions[j]? = some session)
    (hjudged : Judged spoils (session.accepted ++ pending) result) :
    ServedUnless spoils (connection.keep j result) := by
  have hlength := (List.getElem?_eq_some_iff.mp hj).1
  cases hjudged with
  | crashed bad => exact ⟨absurd bad, fun _ h => by cases h.1⟩
  | lost bad wrong =>
    exact ⟨absurd bad, fun _ => not_requestsServed (List.getElem?_set_self hlength) wrong⟩
  | served well taken served =>
    refine ⟨fun _ => ⟨h.sock, h.going, fun id k hk => ?_, ?_, h.refusals, fun kept hkept => ?_⟩,
      fun bad => absurd bad well⟩
    · exact (h.table id k hk).trans_eq (List.length_set).symm
    · refine h.received.trans ((List.perm_append_comm_assoc _ _ _).trans ?_)
      exact (flatMap_set_perm hj taken).append_left _
    · rcases List.mem_or_eq_of_mem_set hkept with hkept | rfl
      · exact h.served kept hkept
      · exact served

/-- A request that is refused gets one response. -/
theorem Serving.refuse (h : Serving [message] connection) (statusCode reason : Nat) :
    Serving [] (rtspServerErrorRespond (connection.refuse message) message statusCode reason) := by
  have hsock : (connection.refuse message).sock = true := h.sock
  rw [rtspServerErrorRespond, if_pos hsock]
  refine ⟨h.sock, h.going, h.table, ?_, ?_, h.served⟩
  · refine h.received.trans ?_
    rw [← List.append_assoc]
    exact List.perm_append_comm.append_right _
  · simp [ServerConnection.refuse, h.refusals, responseCreate_carried]

theorem Serving.receive (h : Serving [] connection) (message : Message) :
    Serving [message] (connection.receive message) :=
  ⟨h.sock, h.going, h.table, (h.received.append_right [message]).trans List.perm_append_comm,
    h.refusals, h.served⟩

theorem served_create (id : Bytes) : Served (rtspServerSessionCreate id) :=
  ⟨rfl, rfl, .idle rfl rfl rfl rfl rfl rfl rfl⟩

/-- A session is created. -/
theorem Serving.add (h : Serving pending connection) (id : Bytes) :
    Serving pending { connection with
      sessions := connection.sessions ++ [rtspServerSessionCreate id]
      sessionTable := connection.sessionTable.insert id connection.sessions.length } := by
  refine ⟨h.sock, h.going, fun id' k hk => ?_, ?_, h.refusals, fun session hsession => ?_⟩
  · rw [List.length_append]
    rcases lookup_of_insert hk with ⟨-, rfl⟩ | hk
    · exact Nat.lt_succ_self _
    · exact Nat.lt_succ_of_lt (h.table id' k hk)
  · simpa [rtspServerSessionCreate] using h.received
  · rcases List.mem_append.mp hsession with hsession | hsession
    · exact h.served session hsession
    · rw [List.mem_singleton.mp hsession]
      exact served_create id

/-- A request without a session id. -/
theorem Serving.first (app : Application) (h : Serving [message] connection)
    (hmethod : message.methodId = .setup ∨ message.methodId = .describe) :
    Serving [] (requestFirst app connection message) := by
  have hsetup : rtspServerSessionSetupProcess app connection message =
      sessionAdd app connection := by
    rcases hmethod with hmethod | hmethod <;> rw [rtspServerSessionSetupProcess, hmethod]
  have hteardown : message.methodId ≠ .teardown := by
    rcases hmethod with hmethod | hmethod <;> simp [hmethod]
  have hjudged := first_judged app app.id hteardown
  rw [← h.sock] at hjudged
  rw [requestFirst, hsetup, sessionAdd]
  cases app.createSession with
  | true =>
    rw [if_pos rfl]
    dsimp only
    rw [List.getElem?_concat_length]
    exact ((h.add app.id).keep List.getElem?_concat_length hjudged).1 not_false
  | false => exact h.refuse _ _

/-- A request that is refused twice. -/
theorem Serving.refused_twice (app : Application) (h : Serving [message] connection)
    (hsetup : message.methodId ≠ .setup) (hdescribe : message.methodId ≠ .describe) :
    ¬ RequestsServed (requestFirst app connection message) := by
  have hprocess : rtspServerSessionSetupProcess app connection message =
      (rtspServerErrorRespond connection message statusCodeBadRequest reasonPhraseBadRequest,
        none) := by
    unfold rtspServerSessionSetupProcess
    split
    · rename_i hmethod
      exact absurd hmethod hsetup
    · rename_i hmethod
      exact absurd hmethod hdescribe
    · rfl
  rintro ⟨-, -, hrefusals, -⟩
  have hbefore := congrArg List.length h.refusals
  have hafter := congrArg List.length hrefusals
  simp only [requestFirst, hprocess, rtspServerErrorRespond, ServerConnection.refuse, h.sock,
    if_true, List.length_map, List.length_append, List.length_singleton] at hbefore hafter
  omega

/-! ## What is due -/

theorem requestNext_answers {app : Application}
    (hnext : requestNext app true session = some session') :
    ∃ more, session'.answers = session.answers ++ more := by
  unfold requestNext at hnext
  split at hnext
  · cases hnext
    exact ⟨[], (List.append_nil _).symm⟩
  · rename_i next queue hqueue
    have hcase := messageHandle_case app true
      { session with activeRequest := some next, requestQueue := queue } next
    obtain ⟨⟨handled, ok⟩, hhandle, rfl⟩ := Option.map_eq_some_iff.mp hnext
    rw [hhandle] at hcase
    cases hcase with
    | last => exact ⟨[], (List.append_nil _).symm⟩
    | taken => exact ⟨[], (List.append_nil _).symm⟩
    | failed =>
      exact ⟨[handleError next], by
        simp [ServerSession.send, ServerSession.answers, handleError, responseCreate_isResponse]⟩

/-- A response of the application answers the active request. -/
theorem RespondCase.answers {app : Application}
    (hcase : RespondCase app true session request message (some session'))
    (hmessage : message.isResponse = true) :
    ∃ more, session'.answers =
      session.answers ++ sessionResponse session request message :: more := by
  have hanswers := respondedSession_answers session request hmessage
  generalize hresult : some session' = result at hcase
  cases hcase with
  | crashed => cases hresult
  | ended =>
    cases hresult
    exact ⟨[], hanswers⟩
  | next =>
    obtain ⟨more, hmore⟩ := requestNext_answers hresult.symm
    exact ⟨more, by rw [hmore, hanswers, List.append_assoc]; rfl⟩

theorem Served.due (hsession : Served session) (hsock : connection.sock = true)
    (hgoing : connection.crashed = false) (hj : connection.sessions[j]? = some session)
    {rest : List Message} (hwaiting : session.waiting = request :: rest) :
    Due connection j session request := by
  have hlength := (List.getElem?_eq_some_iff.mp hj).1
  cases hsession.stage with
  | idle live active queue =>
    rw [waiting_live live, active, queue] at hwaiting
    cases hwaiting
  | gone dead =>
    rw [waiting_over dead] at hwaiting
    cases hwaiting
  | busy owner live active going owed =>
    rw [waiting_active live active] at hwaiting
    obtain ⟨rfl, -⟩ := List.cons.inj hwaiting
    refine .inl ⟨owner, owed, fun app message hmessage hcarried => ?_⟩
    refine ⟨_, serverStep_respond app message hgoing hj, ?_⟩
    have hcase := responseProcess_case app true (isRequest_of_isResponse hmessage) active
    rw [hsock]
    cases hresult : rtspServerSessionResponseProcess app true session message with
    | none => exact .inl rfl
    | some session' =>
      rw [hresult] at hcase
      obtain ⟨more, hanswers⟩ := hcase.answers hmessage
      refine .inr ⟨session, session', more.map Message.carried, hj,
        List.getElem?_set_self hlength, ?_⟩
      rw [hanswers, List.map_append, List.map_cons, sessionResponse_carried, hcarried]
  | ending live idle going owed asked ended =>
    refine .inr ⟨by omega, fun app => ⟨_, serverStep_terminate app hgoing hj, ?_⟩⟩
    rcases Option.eq_none_or_eq_some session.activeRequest with hactive | ⟨active, hactive⟩
    · rw [waiting_live live, hactive, idle hactive] at hwaiting
      cases hwaiting
    · rw [waiting_active live hactive] at hwaiting
      cases hwaiting
      refine ⟨session, sessionEnd true session, [], hj, ?_, ?_⟩
      · rw [rtspServerSessionDoTerminate, hsock]
        exact List.getElem?_set_self hlength
      · rw [sessionEnd_answers hactive, List.map_append, List.map_singleton, endReply_carried]

theorem Served.single (h : Served session) :
    session.handed.length ≤ session.answers.length + 1 := by
  have haccounts := congrArg List.length h.accounts
  have horder := congrArg List.length h.order
  by_cases hlive : session.destroyed = 0
  · have hactive : session.activeRequest.toList.length ≤ 1 := by
      cases session.activeRequest <;> simp
    rw [if_pos hlive] at horder
    rw [waiting_live hlive] at haccounts
    simp only [List.length_map, List.length_append] at haccounts horder
    omega
  · rw [waiting_over hlive] at haccounts
    simp only [List.length_map, List.length_append, List.length_nil] at haccounts horder
    omega

theorem Serving.requestsServed (h : Serving [] connection) : RequestsServed connection := by
  refine ⟨h.going, h.received, h.refusals, fun j session hj => ?_⟩
  have hsession := h.served session (List.mem_of_getElem? hj)
  exact ⟨hsession.accounts, ⟨_, hsession.order⟩, hsession.single,
    fun request rest => hsession.due h.sock h.going hj⟩

/-! ## A step of the connection -/

/-- A request with a session id. -/
theorem Serving.existing (app : Application) (h : Serving [message] connection) {spoils : Prop}
    (hspoils : spoils ↔ ∃ j session,
      connection.sessionTable.lookup message.header.sessionId = some j ∧
      connection.sessions[j]? = some session ∧ session.terminating = false ∧
      RequestSpoils app session message) :
    ServedUnless spoils (requestExisting app connection message) := by
  rw [hspoils]
  unfold requestExisting
  cases hlookup : connection.sessionTable.lookup message.header.sessionId with
  | none => exact ⟨fun _ => h.refuse _ _, fun ⟨_, _, hsome, _⟩ => by cases hsome⟩
  | some j =>
    have hlength := h.table _ j hlookup
    obtain ⟨session, hj⟩ : ∃ session, connection.sessions[j]? = some session :=
      ⟨_, List.getElem?_eq_getElem hlength⟩
    have hiff : (∃ j' session', some j = some j' ∧ connection.sessions[j']? = some session' ∧
        session'.terminating = false ∧ RequestSpoils app session' message) ↔
        (session.terminating = false ∧ RequestSpoils app session message) := by simp [hj]
    rw [hiff]
    dsimp only
    rw [hj]
    dsimp only
    cases hgoing : session.terminating with
    | true =>
      exact ⟨fun _ => h.refuse _ _, fun hbad => by cases hbad.1⟩
    | false =>
      have hjudged := (h.served session (List.mem_of_getElem? hj)).request_judged app message
        hgoing
      rw [← h.sock] at hjudged
      simp only [true_and]
      exact h.keep hj hjudged

/-- A message that has been received. -/
theorem Serving.process (app : Application) (message : Message) (h : Serving [] connection) :
    ServedUnless (Spoils connection (app, .receive message))
      (rtspServerSessionRequestProcess app connection message) := by
  have hreceive := h.receive message
  unfold rtspServerSessionRequestProcess Spoils
  by_cases hrequest : message.isRequest = true
  · by_cases hid : rtspHeaderPropertyCheck message.header .sessionId = true
    · simp only [hrequest, hid, true_and]
      exact hreceive.existing app Iff.rfl
    · simp only [hrequest, hid, true_and]
      constructor
      · intro hwell
        refine hreceive.first app ?_
        by_contra hmethod
        exact hwell ⟨fun hsetup => hmethod (.inl hsetup), fun hdescribe => hmethod (.inr hdescribe)⟩
      · exact fun hbad => hreceive.refused_twice app hbad.1 hbad.2
  · rw [if_neg hrequest]
    exact ⟨fun _ => h, fun hbad => absurd hbad.1 hrequest⟩

theorem Serving.erase (h : Serving pending connection) (id : Bytes) (destroyed : Bool) :
    Serving pending { connection with
      sessionTable := connection.sessionTable.erase id, destroyed := destroyed } :=
  { h with table := fun id' j hj => h.table id' j (lookup_of_erase hj).2 }

/-- The application has ended the termination. -/
theorem Serving.terminate (h : Serving [] connection) (hj : connection.sessions[j]? = some session)
    (hasked : session.ended < session.asked) :
    ServedUnless (session.requestQueue ≠ [])
      (rtspServerSessionDoTerminate connection j session) := by
  have hjudged := (h.served session (List.mem_of_getElem? hj)).end_judged hasked
  rw [← h.sock, ← List.append_nil session.accepted] at hjudged
  have herase := h.erase session.id (connection.destroyed ||
    (!connection.sock && (connection.sessionTable.erase session.id).entries.isEmpty))
  exact herase.keep hj hjudged

theorem Served.active_of_owed (h : Served session) (howed : session.owed = some request) :
    session.activeRequest = some request := by
  cases h.stage with
  | idle live active queue going owed => cases howed.symm.trans owed
  | busy owner live active going owed => exact active.trans (owed.symm.trans howed)
  | ending live idle going owed => cases howed.symm.trans owed
  | gone dead stale owed => cases howed.symm.trans owed

/-- The application has responded, or it has sent an event. -/
theorem Serving.respond (app : Application) (message : Message) (h : Serving [] connection)
    (hj : connection.sessions[j]? = some session)
    (howed : message.isRequest = false → ∃ request ∈ session.owed,
      message.isResponse = true ∧ message.carried = request.carried) :
    ServedUnless (Spoils connection (app, .respond j message)) (connection.keep j
      (rtspServerSessionResponseProcess app connection.sock session message)) := by
  have hserved := h.served session (List.mem_of_getElem? hj)
  cases hrequest : message.isRequest with
  | true =>
    have hevent : Judged False (session.accepted ++ [])
        (some (sessionEvent true session message)) := by
      refine .served not_false ?_ (hserved.event message hrequest)
      rw [List.append_nil, sessionEvent]
      split <;> rfl
    rw [rtspServerSessionResponseProcess, if_pos hrequest, h.sock]
    refine ⟨fun _ => (h.keep hj hevent).1 not_false, fun hbad => ?_⟩
    cases hrequest.symm.trans hbad.1
  | false =>
    obtain ⟨request, howed, hmessage, hcarried⟩ := howed hrequest
    have hactive := hserved.active_of_owed howed
    have hjudged := hserved.respond_judged app hactive howed hmessage hcarried
    rw [← h.sock, ← List.append_nil session.accepted] at hjudged
    have hiff : Spoils connection (app, .respond j message) ↔
        RespondSpoils app session request message := by
      simp [Spoils, hrequest, hj, hactive]
    rw [hiff]
    exact h.keep hj hjudged

theorem Serving.step {input : Application × ServerInput} {connection' : ServerConnection}
    (h : Serving [] connection) (hpermitted : OpenPermitted connection input)
    (hstep : serverStep connection input = some connection') :
    ServedUnless (Spoils connection input) connection' := by
  obtain ⟨app, input⟩ := input
  obtain ⟨hpermitted, hopen⟩ := hpermitted
  cases input with
  | receive message =>
    rw [serverStep, if_neg (by simp [h.going])] at hstep
    dsimp only at hstep
    split at hstep
    · cases hstep
      exact h.process app message
    · cases hstep
  | invalid message =>
    simp only [serverStep, h.going, h.sock, if_true] at hstep
    cases hstep
    refine ⟨fun _ => ?_, False.elim⟩
    cases message with
    | none => exact h
    | some message => exact (h.receive message).refuse _ _
  | respond j message =>
    obtain ⟨session, hj, -, -, howed⟩ := hpermitted
    cases (serverStep_respond app message h.going hj).symm.trans hstep
    exact h.respond app message hj howed
  | terminate j =>
    obtain ⟨session, hj, hasked⟩ := hpermitted
    cases (serverStep_terminate app h.going hj).symm.trans hstep
    have hiff : Spoils connection (app, .terminate j) ↔ session.requestQueue ≠ [] := by
      simp [Spoils, Option.mem_def.mp hj]
    rw [hiff]
    exact h.terminate hj hasked
  | close => exact absurd rfl hopen

end Connection

theorem serving_accept : Serving [] rtspServerConnectionAccept :=
  ⟨rfl, rfl, fun _ _ hj => (nomatch hj), List.Perm.nil, rfl, fun _ hmem => (nomatch hmem)⟩

/-- On an open connection every request is answered once, with its CSeq, in
every state of a run, exactly if no step of the run spoils it. -/
theorem requests_served_iff (inputs : List (Application × ServerInput))
    (hpermitted : Along serverStep OpenPermitted rtspServerConnectionAccept inputs) :
    Always serverStep RequestsServed rtspServerConnectionAccept inputs ↔
      Along serverStep (fun connection input => ¬ Spoils connection input)
        rtspServerConnectionAccept inputs :=
  always_iff_along (fun _ => Serving.requestsServed)
    (fun _ _ _ h hpermitted hwell hstep => (h.step hpermitted hstep).1 hwell)
    (fun _ _ _ h hpermitted hserved hstep hbad => (h.step hpermitted hstep).2 hbad hserved)
    inputs rtspServerConnectionAccept serving_accept hpermitted

/-- The application creates a session, and handles every message. -/
def readyApp : Application := ⟨true, true, bytesOf "0a1b"⟩

/-- A request for the synthesizer, with a CSeq. -/
def resourceRequest (methodId : MethodId) (cseq : Nat) : Message :=
  (rtspRequestCreate methodId (some (bytesOf "speechsynthesizer"))).setCseq cseq

/-- A session from its SETUP to the end of its TEARDOWN; an ANNOUNCE waits for
the response to the SETUP. -/
def sessionRun : List (Application × ServerInput) :=
  let setup := resourceRequest .setup 1
  let announce := (resourceRequest .announce 2).setSessionId readyApp.id
  let teardown := (resourceRequest .teardown 3).setSessionId readyApp.id
  [(readyApp, .receive setup), (⟨true, true, []⟩, .receive announce),
    (readyApp, .respond 0 (rtspResponseCreate setup statusCodeOk reasonPhraseOk)),
    (readyApp, .respond 0 (rtspResponseCreate announce statusCodeOk reasonPhraseOk)),
    (⟨true, true, []⟩, .receive teardown), (readyApp, .terminate 0)]

theorem requests_served_sessionRun :
    Along serverStep OpenPermitted rtspServerConnectionAccept sessionRun ∧
      (∃ connection ∈ after serverStep rtspServerConnectionAccept sessionRun,
        ∃ session ∈ connection.sessions[0]?, session.answers.map Message.carried =
          [some 1, some 2, some 3]) ∧
      (Always serverStep RequestsServed rtspServerConnectionAccept sessionRun ↔
        Along serverStep (fun connection input => ¬ Spoils connection input)
          rtspServerConnectionAccept sessionRun) := by
  have hpermitted : Along serverStep OpenPermitted rtspServerConnectionAccept sessionRun := by
    decide +kernel
  exact ⟨hpermitted, by decide +kernel, requests_served_iff sessionRun hpermitted⟩

/-- An ANNOUNCE without a session id gets two responses. -/
theorem announce_refused_twice :
    Along serverStep OpenPermitted rtspServerConnectionAccept
        [(readyApp, .receive (resourceRequest .announce 1))] ∧
      ∃ connection ∈ after serverStep rtspServerConnectionAccept
          [(readyApp, .receive (resourceRequest .announce 1))],
        (connection.received = [resourceRequest .announce 1] ∧
          connection.refusals = [
            rtspResponseCreate (resourceRequest .announce 1) statusCodeBadRequest
              reasonPhraseBadRequest,
            rtspResponseCreate (resourceRequest .announce 1) statusCodeNotAcceptable
              reasonPhraseNotAcceptable]) ∧
        ¬ RequestsServed connection := by
  refine ⟨by decide +kernel, _, rfl, by decide +kernel, fun hserved => ?_⟩
  exact absurd (congrArg List.length hserved.2.2.1) (by decide +kernel)

end UniMrcp.Rtsp
