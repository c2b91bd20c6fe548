import UniMrcp.Rtsp.Server

/-!
# The handlers of a server session

What the functions of a session do, stated once: `HandleCase` for the message
handler, `RespondCase` for a response of the application.  The connection only
finds the session, and keeps it.
-/

namespace UniMrcp.Rtsp

open UniMrcp.Apt

/-! ## The sequence number of a message -/

/-- The CSeq of a message, if it has one. -/
def Message.carried (message : Message) : Option Nat :=
  if rtspHeaderPropertyCheck message.header .cseq then some message.header.cseq else none

theorem propertyAdd_other {header : Header} {id other : HeaderFieldId} (hne : id ≠ other) :
    rtspHeaderPropertyCheck (rtspHeaderPropertyAdd header id) other =
      rtspHeaderPropertyCheck header other := by
  unfold rtspHeaderPropertyAdd
  split
  · rfl
  · simp [rtspHeaderPropertyCheck, hne.symm]

theorem setSessionId_carried (message : Message) (id : Bytes) :
    (message.setSessionId id).carried = message.carried := by
  have hcseq : (message.setSessionId id).header.cseq = message.header.cseq :=
    propertyAdd_cseq { message.header with sessionId := id } .sessionId
  have hcheck : rtspHeaderPropertyCheck (message.setSessionId id).header .cseq =
      rtspHeaderPropertyCheck message.header .cseq :=
    propertyAdd_other (by simp)
  rw [Message.carried, hcseq, hcheck]
  rfl

/-- A response carries what its request carries. -/
theorem responseCreate_carried (request : Message) (statusCode reason : Nat) :
    (rtspResponseCreate request statusCode reason).carried = request.carried := by
  unfold Message.carried
  by_cases hcheck : rtspHeaderPropertyCheck request.header .cseq = true
  · rw [responseCreate_cseq request statusCode reason hcheck, if_pos hcheck, rtspResponseCreate,
      if_pos hcheck, setCseq_check, if_pos rfl]
  · rw [if_neg hcheck, rtspResponseCreate, if_neg hcheck]
    rfl

theorem isRequest_of_isResponse {m : Message} (h : m.isResponse = true) : m.isRequest = false := by
  unfold Message.isResponse at h
  unfold Message.isRequest Message.requestLine
  cases hline : m.startLine with
  | response line => rfl
  | request line => rw [hline] at h; cases h
  | unknown => rfl

/-! ## The message handler -/

/-- The message is the TEARDOWN of the last resource. -/
def LastTeardown (session : ServerSession) (message : Message) : Prop :=
  message.methodId = .teardown ∧ ∃ name, message.resourceName = some name ∧
    (session.resourceTable.erase name).entries = []

/-- The message handler stops the program, or the application fails to handle
the message. -/
def Mishandled (app : Application) (session : ServerSession) (message : Message) : Prop :=
  (message.methodId = .teardown ∧ message.resourceName = none) ∨
    (app.handleMessage = false ∧ ¬ LastTeardown session message)

/-- The error that is sent when the application cannot handle a message. -/
def handleError (message : Message) : Message :=
  rtspResponseCreate message statusCodeInternalServerError reasonPhraseInternalServerError

inductive HandleCase (app : Application) (sock : Bool) (session : ServerSession)
    (message : Message) : Option (ServerSession × Bool) → Prop where
  | crashed (mishandled : Mishandled app session message) :
      HandleCase app sock session message none
  | last (table : AList (fun _ : Bytes => Message)) (well : ¬ Mishandled app session message)
      (teardown : LastTeardown session message) :
      HandleCase app sock session message (some (rtspServerSessionTerminateRequest
        { session with resourceTable := table, handed := session.handed ++ [message] }, true))
  | taken (table : AList (fun _ : Bytes => Message)) (well : ¬ Mishandled app session message)
      (more : ¬ LastTeardown session message) :
      HandleCase app sock session message (some ({ session with
        resourceTable := table, handed := session.handed ++ [message], owed := some message },
          true))
  | failed (table : AList (fun _ : Bytes => Message)) (mishandled : Mishandled app session message)
      (more : ¬ LastTeardown session message) :
      HandleCase app sock session message (some (ServerSession.send sock { session with
        resourceTable := table, handed := session.handed ++ [message] } (handleError message),
          false))

theorem messageGive_case (app : Application) (sock : Bool) {session : ServerSession}
    {message : Message} (table : AList (fun _ : Bytes => Message))
    (hnamed : ¬ (message.methodId = .teardown ∧ message.resourceName = none))
    (hmore : ¬ LastTeardown session message) :
    HandleCase app sock session message
      (some (messageGive app sock { session with resourceTable := table } message)) := by
  unfold messageGive
  split
  · rename_i hok
    refine .taken table (fun hmis => ?_) hmore
    rcases hmis with hmis | ⟨hfail, -⟩
    · exact hnamed hmis
    · rw [hok] at hfail
      cases hfail
  · rename_i hfail
    exact .failed table (.inr ⟨by simpa using hfail, hmore⟩) hmore

theorem messageHandle_case (app : Application) (sock : Bool) (session : ServerSession)
    (message : Message) :
    HandleCase app sock session message
      (rtspServerSessionMessageHandle app sock session message) := by
  unfold rtspServerSessionMessageHandle
  split
  · rename_i hteardown
    cases hname : message.resourceName with
    | none => exact .crashed (.inl ⟨hteardown, hname⟩)
    | some name =>
      rw [Option.map_some]
      dsimp only
      split
      · rename_i hempty
        have hlast : LastTeardown session message :=
          ⟨hteardown, name, hname, List.isEmpty_iff.mp hempty⟩
        refine .last _ (fun hmis => ?_) hlast
        rcases hmis with ⟨-, hnone⟩ | ⟨-, hnot⟩
        · rw [hname] at hnone
          cases hnone
        · exact hnot hlast
      · rename_i hmore
        refine messageGive_case app sock _ (fun ⟨_, hnone⟩ => ?_)
          (fun ⟨_, name', hname', hempty⟩ => ?_)
        · rw [hname] at hnone
          cases hnone
        · rw [hname, Option.some.injEq] at hname'
          subst hname'
          exact hmore (List.isEmpty_iff.mpr hempty)
  · rename_i hother
    exact messageGive_case app sock session.resourceTable (fun ⟨hteardown, _⟩ => hother hteardown)
      (fun ⟨hteardown, _⟩ => hother hteardown)

/-! ## A response of the application -/

/-- The response to the active request ends the session. -/
def ResponseEnds (session : ServerSession) (request message : Message) : Prop :=
  request.methodId = .describe ∨ (request.methodId = .setup ∧
    message.statusCode ≠ statusCodeOk ∧ session.resourceTable.entries = [])

/-- The response adds a resource that has no name. -/
def ResponseCrashes (request message : Message) : Prop :=
  request.methodId = .setup ∧ message.statusCode = statusCodeOk ∧ request.resourceName = none

/-- The resources after the response to the active request. -/
def respondedTable (session : ServerSession) (request message : Message) :
    AList (fun _ : Bytes => Message) :=
  if request.methodId = .setup ∧ message.statusCode = statusCodeOk then
    match request.resourceName with
    | none => session.resourceTable
    | some name => session.resourceTable.insert name request
  else session.resourceTable

/-- The session when the response has been sent. -/
def respondedSession (sock : Bool) (session : ServerSession) (request message : Message) :
    ServerSession :=
  ServerSession.send sock { session with
    resourceTable := respondedTable session request message
    lastCseq := message.header.cseq
    owed := none } (sessionResponse session request message)

inductive RespondCase (app : Application) (sock : Bool) (session : ServerSession)
    (request message : Message) : Option ServerSession → Prop where
  | crashed (crashes : ResponseCrashes request message) :
      RespondCase app sock session request message none
  | ended (goes : ¬ ResponseCrashes request message) (ends : ResponseEnds session request message) :
      RespondCase app sock session request message
        (some (rtspServerSessionTerminateRequest
          { respondedSession sock session request message with activeRequest := none }))
  | next (goes : ¬ ResponseCrashes request message)
      (more : ¬ ResponseEnds session request message) :
      RespondCase app sock session request message
        (requestNext app sock (respondedSession sock session request message))

theorem resourcesRespond_case (session : ServerSession) (request message : Message) :
    (resourcesRespond session request message = none ∧ ResponseCrashes request message) ∨
      (¬ ResponseCrashes request message ∧ ∃ terminate : Bool,
        resourcesRespond session request message = some ({ session with
          resourceTable := respondedTable session request message }, terminate) ∧
        (terminate = true ↔ ResponseEnds session request message)) := by
  unfold resourcesRespond respondedTable ResponseEnds ResponseCrashes
  cases hmethod : request.methodId with
  | describe => exact .inr ⟨by simp, true, by simp, by simp⟩
  | setup =>
    dsimp only
    split
    · rename_i hok
      cases hname : request.resourceName with
      | none => exact .inl ⟨rfl, rfl, hok, rfl⟩
      | some name => exact .inr ⟨by simp, false, by simp [hok], by simp [hok]⟩
    · rename_i hfail
      refine .inr ⟨fun h => hfail h.2.1, session.resourceTable.entries.isEmpty, ?_, ?_⟩
      · rw [if_neg (fun h => hfail h.2)]
      · simp [hfail]
  | announce => exact .inr ⟨by simp, false, by simp, by simp⟩
  | teardown => exact .inr ⟨by simp, false, by simp, by simp⟩
  | unknown => exact .inr ⟨by simp, false, by simp, by simp⟩

/-- `rtsp_server_session_response_process`, for a response -/
theorem responseProcess_case (app : Application) (sock : Bool) {session : ServerSession}
    {request message : Message} (hresponse : message.isRequest = false)
    (hactive : session.activeRequest = some request) :
    RespondCase app sock session request message
      (rtspServerSessionResponseProcess app sock session message) := by
  unfold rtspServerSessionResponseProcess
  rw [hresponse, hactive]
  simp only
  rcases resourcesRespond_case session request message with ⟨hnone, hcrash⟩ |
    ⟨hgoes, terminate, hsome, hends⟩
  · rw [hnone]
    exact .crashed hcrash
  · rw [hsome]
    cases terminate with
    | true => exact .ended hgoes (hends.mp rfl)
    | false => exact .next hgoes (fun h => by cases hends.mpr h)

/-! ## A request of the peer -/

/-- What a connection knows of its sessions. -/
def ServerConnection.core (connection : ServerConnection) :
    AList (fun _ : Bytes => Nat) × List ServerSession :=
  (connection.sessionTable, connection.sessions)

/-- The request creates a session. -/
def Founds (app : Application) (message : Message) : Prop :=
  message.isRequest = true ∧ rtspHeaderPropertyCheck message.header .sessionId = false ∧
    (message.methodId = .setup ∨ message.methodId = .describe) ∧ app.createSession = true

theorem errorRespond_core (connection : ServerConnection) (request : Message)
    (statusCode reason : Nat) :
    (rtspServerErrorRespond connection request statusCode reason).core = connection.core := by
  unfold rtspServerErrorRespond
  split <;> rfl

theorem receive_keep_core (connection : ServerConnection) (message : Message) (j : Nat)
    (result : Option ServerSession) :
    ((connection.receive message).keep j result).core = (connection.keep j result).core := by
  cases result <;> rfl

/-- A message leaves the sessions alone, goes to one of them, or creates one. -/
theorem requestProcess_case (app : Application) (connection : ServerConnection)
    (message : Message) :
    let core := (rtspServerSessionRequestProcess app connection message).core
    (¬ Founds app message ∧ (core = connection.core ∨
      ∃ j session, connection.sessions[j]? = some session ∧ session.terminating = false ∧
        core = (connection.keep j (sessionRequest app connection.sock session message)).core)) ∨
    (Founds app message ∧ core = (ServerConnection.keep { connection with
        sessions := connection.sessions ++ [rtspServerSessionCreate app.id]
        sessionTable := connection.sessionTable.insert app.id connection.sessions.length }
      connection.sessions.length (sessionFirst app connection.sock
        (rtspServerSessionCreate app.id) message)).core) := by
  unfold rtspServerSessionRequestProcess
  split_ifs with hrequest hid
  · refine .inl ⟨fun hfounds => absurd hid (by simp [hfounds.2.1]), ?_⟩
    unfold requestExisting
    split
    · exact .inl (errorRespond_core _ _ _ _)
    · split
      · exact .inl rfl
      · next hj =>
        split
        · exact .inl (errorRespond_core _ _ _ _)
        · next hgoing =>
          exact .inr ⟨_, _, hj, by simpa using hgoing, receive_keep_core _ _ _ _⟩
  · by_cases hfounds : Founds app message
    · have hsetup : rtspServerSessionSetupProcess app (connection.receive message) message =
          sessionAdd app (connection.receive message) := by
        rcases hfounds.2.2.1 with hm | hm <;> rw [rtspServerSessionSetupProcess, hm]
      refine .inr ⟨hfounds, ?_⟩
      rw [requestFirst, hsetup, sessionAdd, if_pos hfounds.2.2.2]
      dsimp only
      rw [List.getElem?_concat_length]
      exact receive_keep_core { connection with
        sessions := connection.sessions ++ [rtspServerSessionCreate app.id]
        sessionTable := connection.sessionTable.insert app.id connection.sessions.length } _ _ _
    · refine .inl ⟨hfounds, .inl ?_⟩
      have hrefused : ∃ refused, rtspServerSessionSetupProcess app (connection.receive message)
          message = (refused, none) ∧ refused.core = connection.core := by
        have hadd : (message.methodId = .setup ∨ message.methodId = .describe) →
            sessionAdd app (connection.receive message) = (connection.receive message, none) :=
          fun hm => if_neg (fun hcreate => hfounds ⟨hrequest, by simpa using hid, hm, hcreate⟩)
        unfold rtspServerSessionSetupProcess
        split
        · next hm => exact ⟨_, hadd (.inl hm), rfl⟩
        · next hm => exact ⟨_, hadd (.inr hm), rfl⟩
        · exact ⟨_, rfl, errorRespond_core _ _ _ _⟩
      obtain ⟨refused, hsetup, hcore⟩ := hrefused
      rw [requestFirst, hsetup]
      exact (errorRespond_core _ _ _ _).trans hcore
  · exact .inl ⟨fun hfounds => hrequest hfounds.1, .inl rfl⟩

end UniMrcp.Rtsp
