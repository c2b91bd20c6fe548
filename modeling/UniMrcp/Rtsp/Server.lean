import UniMrcp.Rtsp.Message

/-!
# The RTSP server

A model of `uni-rtsp/src/rtsp_server.c`.  Connections share nothing: a session
id is looked up in the table of the connection, and a session stays on its
connection.  So the model is one connection with the sessions that are created
on it; a session is a position in a list, which also keeps the sessions that
have been destroyed.  A table entry may still lead to one of those, and the
source then works on what is left of it; so does the model.

The application is called back to create a session, to handle a message and to
terminate a session; `Application` says what the callbacks return.  It sends a
response, an event or the end of a termination to the task later.

A resource name that is NULL stops the program where it is used as a key.  Log
messages, the transport header and the texts of the stream are left out.
-/

namespace UniMrcp.Rtsp

open UniMrcp.Apt

/-- What the callbacks of the application return, and what
`apt_unique_id_generate` gives. -/
structure Application where
  createSession : Bool
  handleMessage : Bool
  id : Bytes

/-- `rtsp_server_session_t`, with its history -/
structure ServerSession where
  id : Bytes
  lastCseq : Nat
  activeRequest : Option Message
  requestQueue : List Message
  resourceTable : AList (fun _ : Bytes => Message)
  terminating : Bool
  /-- the requests that have come in for the session -/
  accepted : List Message
  /-- the requests that have been given to the application -/
  handed : List Message
  /-- the request that the application has taken and not responded to -/
  owed : Option Message
  /-- what has been sent for the session -/
  sent : List Message
  /-- how often `terminate_session` has been called -/
  asked : Nat
  /-- how often the application has ended the termination -/
  ended : Nat
  /-- how often the session has been destroyed -/
  destroyed : Nat

/-- `rtsp_server_connection_t`, with the sessions created on it and its history -/
structure ServerConnection where
  sock : Bool
  sessionTable : AList (fun _ : Bytes => Nat)
  sessions : List ServerSession
  destroyed : Bool
  crashed : Bool
  /-- the requests that have come in -/
  received : List Message
  /-- those that no session has taken -/
  refused : List Message
  /-- the responses to those -/
  refusals : List Message

/-- A connection that has been accepted. -/
def rtspServerConnectionAccept : ServerConnection := ⟨true, ∅, [], false, false, [], [], []⟩

/-- `rtsp_server_session_create` -/
def rtspServerSessionCreate (id : Bytes) : ServerSession :=
  ⟨id, 0, none, [], ∅, false, [], [], none, [], 0, 0, 0⟩

/-! ## A session -/

section

variable (app : Application) (sock : Bool) (session : ServerSession) (message : Message)

/-- `rtsp_server_message_send`, for a session: nothing is sent when the
connection is closed. -/
def ServerSession.send : ServerSession :=
  if sock then { session with sent := session.sent ++ [message] } else session

/-- `rtsp_server_session_terminate_request` -/
def rtspServerSessionTerminateRequest : ServerSession :=
  { session with terminating := true, asked := session.asked + 1 }

/-- The message is given to the application, which may fail to handle it. -/
def messageGive : ServerSession × Bool :=
  let session := { session with handed := session.handed ++ [message] }
  if app.handleMessage then ({ session with owed := some message }, true)
  else (session.send sock (rtspResponseCreate message statusCodeInternalServerError
    reasonPhraseInternalServerError), false)

/-- `rtsp_server_session_message_handle`: the TEARDOWN of the last resource
requests the termination of the session. -/
def rtspServerSessionMessageHandle : Option (ServerSession × Bool) :=
  if message.methodId = .teardown then
    message.resourceName.map (fun name =>
      let session := { session with resourceTable := session.resourceTable.erase name }
      if session.resourceTable.entries.isEmpty then
        (rtspServerSessionTerminateRequest
          { session with handed := session.handed ++ [message] }, true)
      else messageGive app sock session message)
  else some (messageGive app sock session message)

/-- A request for a session that is not being terminated. -/
def sessionRequest : Option ServerSession :=
  let session := { session with accepted := session.accepted ++ [message] }
  if session.activeRequest.isSome then
    some { session with requestQueue := session.requestQueue ++ [message] }
  else (rtspServerSessionMessageHandle app sock { session with activeRequest := some message }
    message).map Prod.fst

/-- The first request of a session that has just been created: the session is
destroyed if the request cannot be handled. -/
def sessionFirst : Option ServerSession :=
  (rtspServerSessionMessageHandle app sock { session with
      activeRequest := some message, accepted := session.accepted ++ [message] } message).map
    (fun handled => if handled.2 then handled.1
      else { handled.1 with destroyed := handled.1.destroyed + 1 })

/-- An ANNOUNCE request (asynch event) of the application. -/
def sessionEvent : ServerSession :=
  match message.resourceName.bind (fun name => session.resourceTable.lookup name) with
  | none => session
  | some request => session.send sock
      (((message.setUrl request.url).setCseq session.lastCseq).setSessionId session.id)

/-- What a response does to the resources, and whether the session is to be
terminated. -/
def resourcesRespond (request message : Message) : Option (ServerSession × Bool) :=
  match request.methodId with
  | .describe => some (session, true)
  | .setup =>
    if message.statusCode = statusCodeOk then
      request.resourceName.map (fun name =>
        ({ session with resourceTable := session.resourceTable.insert name request }, false))
    else some (session, session.resourceTable.entries.isEmpty)
  | _ => some (session, false)

/-- The next request of the queue is handled. -/
def requestNext : Option ServerSession :=
  match session.requestQueue with
  | [] => some { session with activeRequest := none }
  | next :: queue => (rtspServerSessionMessageHandle app sock
      { session with activeRequest := some next, requestQueue := queue } next).map Prod.fst

/-- The response as it is sent. -/
def sessionResponse (request message : Message) : Message :=
  if request.methodId = .describe then message else message.setSessionId session.id

/-- `rtsp_server_session_response_process` -/
def rtspServerSessionResponseProcess : Option ServerSession :=
  if message.isRequest then some (sessionEvent sock session message)
  else
    match session.activeRequest with
    | none => some session
    | some request =>
      (resourcesRespond session request message).bind (fun updated =>
        let session := { updated.1 with lastCseq := message.header.cseq, owed := none }
        let session := session.send sock (sessionResponse session request message)
        if updated.2 then
          some (rtspServerSessionTerminateRequest { session with activeRequest := none })
        else requestNext app sock session)

/-- The session part of `rtsp_server_session_do_terminate` -/
def sessionEnd : ServerSession :=
  let session := match session.activeRequest with
    | none => session
    | some request => session.send sock
        ((rtspResponseCreate request statusCodeOk reasonPhraseOk).setSessionId session.id)
  { session with ended := session.ended + 1, destroyed := session.destroyed + 1 }

end

/-! ## The connection -/

namespace ServerConnection

/-- The session `j` has been worked on; there may be no outcome. -/
def keep (connection : ServerConnection) (j : Nat) (result : Option ServerSession) :
    ServerConnection :=
  match result with
  | none => { connection with crashed := true }
  | some session => { connection with sessions := connection.sessions.set j session }

def receive (connection : ServerConnection) (request : Message) : ServerConnection :=
  { connection with received := connection.received ++ [request] }

/-- No session takes the request. -/
def refuse (connection : ServerConnection) (request : Message) : ServerConnection :=
  { connection with refused := connection.refused ++ [request] }

end ServerConnection

section

variable (app : Application) (connection : ServerConnection) (message : Message)

/-- `rtsp_server_error_respond`, for the connection itself -/
def rtspServerErrorRespond (request : Message) (statusCode reason : Nat) : ServerConnection :=
  if connection.sock then
    { connection with
      refusals := connection.refusals ++ [rtspResponseCreate request statusCode reason] }
  else connection

/-- A session is created and added to the table. -/
def sessionAdd : ServerConnection × Option Nat :=
  if app.createSession then
    ({ connection with
        sessions := connection.sessions ++ [rtspServerSessionCreate app.id]
        sessionTable := connection.sessionTable.insert app.id connection.sessions.length },
      some connection.sessions.length)
  else (connection, none)

/-- `rtsp_server_session_setup_process` -/
def rtspServerSessionSetupProcess : ServerConnection × Option Nat :=
  match message.methodId with
  | .setup => sessionAdd app connection
  | .describe => sessionAdd app connection
  | _ => (rtspServerErrorRespond connection message statusCodeBadRequest reasonPhraseBadRequest,
      none)

/-- A request without a session id. -/
def requestFirst : ServerConnection :=
  let setup := rtspServerSessionSetupProcess app connection message
  match setup.2 with
  | none => rtspServerErrorRespond (setup.1.refuse message) message statusCodeNotAcceptable
      reasonPhraseNotAcceptable
  | some j =>
    match setup.1.sessions[j]? with
    | none => setup.1
    | some session => setup.1.keep j (sessionFirst app connection.sock session message)

/-- A request with a session id. -/
def requestExisting : ServerConnection :=
  match connection.sessionTable.lookup message.header.sessionId with
  | none => rtspServerErrorRespond (connection.refuse message) message statusCodeNotFound
      reasonPhraseNotFound
  | some j =>
    match connection.sessions[j]? with
    | none => connection
    | some session =>
      if session.terminating then
        rtspServerErrorRespond (connection.refuse message) message statusCodeNotAcceptable
          reasonPhraseNotAcceptable
      else connection.keep j (sessionRequest app connection.sock session message)

/-- `rtsp_server_session_request_process` -/
def rtspServerSessionRequestProcess : ServerConnection :=
  if message.isRequest then
    if rtspHeaderPropertyCheck message.header .sessionId then
      requestExisting app (connection.receive message) message
    else requestFirst app (connection.receive message) message
  else connection

/-- `rtsp_server_message_handler`, for a message that cannot be parsed -/
def messageInvalid (message : Option Message) : ServerConnection :=
  match message with
  | none => connection
  | some message => rtspServerErrorRespond ((connection.receive message).refuse message) message
      statusCodeBadRequest reasonPhraseBadRequest

/-- `rtsp_server_session_do_terminate` -/
def rtspServerSessionDoTerminate (j : Nat) (session : ServerSession) : ServerConnection :=
  let table := connection.sessionTable.erase session.id
  { connection with
    sessions := connection.sessions.set j (sessionEnd connection.sock session)
    sessionTable := table
    destroyed := connection.destroyed || (!connection.sock && table.entries.isEmpty) }

/-- The loop of `rtsp_server_connection_close` -/
def sessionsTerminate (js : List Nat) (sessions : List ServerSession) : List ServerSession :=
  js.foldl (fun sessions j => sessions.modify j (fun session =>
    if session.terminating then session else rtspServerSessionTerminateRequest session)) sessions

/-- `rtsp_server_connection_close` -/
def rtspServerConnectionClose : ServerConnection :=
  let js := connection.sessionTable.entries.map Sigma.snd
  { connection with
    sock := false
    sessions := sessionsTerminate js connection.sessions
    destroyed := connection.destroyed || js.isEmpty }

/-! ## The task of the server -/

/-- What arrives at the task of the server. -/
inductive ServerInput where
  /-- a message has been received -/
  | receive (message : Message)
  /-- something that cannot be parsed has been received -/
  | invalid (message : Option Message)
  /-- TASK_MSG_SEND_MESSAGE -/
  | respond (session : Nat) (message : Message)
  /-- TASK_MSG_TERMINATE_SESSION -/
  | terminate (session : Nat)
  /-- the peer has closed the connection -/
  | close
  deriving Repr, DecidableEq

/-- One message to the task, or one event of its poller.  There is no outcome
after a crash, for a session that does not exist, for an id that is in use, and
nothing is received on a closed connection. -/
def serverStep (input : Application × ServerInput) : Option ServerConnection :=
  if connection.crashed then none
  else
    match input.2 with
    | .receive message =>
      if connection.sock && connection.sessions.all (fun session => session.id != input.1.id) then
        some (rtspServerSessionRequestProcess input.1 connection message)
      else none
    | .invalid message =>
      if connection.sock then some (messageInvalid connection message) else none
    | .respond j message => (connection.sessions[j]?).map (fun session =>
        connection.keep j
          (rtspServerSessionResponseProcess input.1 connection.sock session message))
    | .terminate j => (connection.sessions[j]?).map (fun session =>
        rtspServerSessionDoTerminate connection j session)
    | .close => if connection.sock then some (rtspServerConnectionClose connection) else none

end

end UniMrcp.Rtsp
