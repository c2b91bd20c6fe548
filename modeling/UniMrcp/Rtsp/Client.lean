import UniMrcp.Lib.Decimal
import UniMrcp.Rtsp.Message

/-!
# The RTSP client

A model of `uni-rtsp/src/rtsp_client.c`.  The application gives requests to a
session, and may terminate it.  A session has at most one request in progress;
the others wait in its pending queue.  The sessions with a request in progress
are listed in a queue of their connection, where a response finds its session
by the CSeq.  A response, a timeout and a disconnect end a request.

A session works on itself and on its connection: a `Link`.  Hash tables are
association lists, and a session or a connection is a position in a list of the
client.  The source creates one connection for each session, but nothing in its
handlers depends on that: sessions of a client may share a connection.

Callbacks of the application only send messages to the task, so they are notes
in the log of the session.
-/

namespace UniMrcp.Rtsp

open UniMrcp.Lib UniMrcp.Apt

/-- `termination_state_e` -/
inductive TerminationState where
  | none
  | requested
  | inprogress
  deriving Repr, DecidableEq

/-- What happens between a session and the application. -/
inductive Note where
  /-- a request is submitted, and the session is not terminating -/
  | request (message : Message)
  /-- `on_session_response` -/
  | response (request response : Message)
  /-- `on_session_event` -/
  | event (message : Message)
  /-- `on_session_terminate_event` -/
  | terminateEvent
  /-- the termination is requested -/
  | terminateRequest
  /-- `on_session_terminate_response` -/
  | terminateResponse
  deriving Repr, DecidableEq

/-- `rtsp_client_connection_t` -/
structure ClientConnection where
  sock : Bool
  handleTable : List Nat
  sessionTable : AList (fun _ : Bytes => Nat)
  inprogressRequestQueue : List Nat
  lastCseq : Nat

/-- `rtsp_client_session_t`, with its history -/
structure ClientSession where
  connection : Option Nat
  id : Bytes
  serverIp : Bytes
  serverPort : Nat
  resourceLocation : Bytes
  activeRequest : Option Message
  pendingRequestQueue : List Message
  requestTimer : Bool
  resourceTable : AList (fun _ : Bytes => Message)
  termState : TerminationState
  log : List Note

/-- `rtsp_client_session_create` -/
def rtspClientSessionCreate (serverIp : Bytes) (serverPort : Nat) (resourceLocation : Bytes) :
    ClientSession :=
  ⟨none, [], serverIp, serverPort, resourceLocation, none, [], false, ∅, .none, []⟩

/-- `rtsp_client_t` -/
structure Client where
  sessions : List ClientSession
  connections : List ClientConnection

/-- The network: whether a connection can be made, and whether a message can be
sent.  Every message has a CSeq of its own. -/
structure Net where
  connect : Bool
  send : Nat → Bool

/-- A session and its connection. -/
structure Link where
  connection : Option ClientConnection
  session : ClientSession

def ClientSession.note (session : ClientSession) (n : Note) : ClientSession :=
  { session with log := session.log ++ [n] }

/-- The application has been told that the session is terminated, and has
destroyed it. -/
def ClientSession.gone (session : ClientSession) : Bool := session.log.contains .terminateResponse

/-- The key of a request in the resource table. -/
def Message.resourceKey (message : Message) : Bytes := message.resourceName.getD []

/-! ## Requests -/

section

variable (net : Net) (timeout j : Nat) (link : Link)

/-- `rtsp_client_connection_create`, for the session `j` -/
def rtspClientConnectionCreate : ClientConnection := ⟨true, [j], ∅, [], 0⟩

/-- `rtsp_client_session_url_generate` -/
def rtspClientSessionUrlGenerate (session : ClientSession) (message : Message) : Message :=
  let server := bytesOf "rtsp://" ++ session.serverIp ++ bytesOf ":" ++
    decimal session.serverPort ++ bytesOf "/"
  let location := if session.resourceLocation.isEmpty then []
    else session.resourceLocation ++ bytesOf "/"
  message.setUrl (server ++ location ++ message.resourceKey)

/-- `rtsp_client_request_push` -/
def rtspClientRequestPush (timeout j : Nat) (connection : ClientConnection)
    (session : ClientSession) (message : Message) : Link :=
  ⟨some { connection with
      inprogressRequestQueue := connection.inprogressRequestQueue ++ [j] },
    { session with
      activeRequest := some message
      requestTimer := session.requestTimer || timeout != 0 }⟩

/-- What `rtsp_client_session_request_process` leaves: the link, the message,
whose header and URL have been set, and whether it has been sent. -/
structure Attempt where
  link : Link
  message : Message
  sent : Bool

/-- The message as it is sent. -/
def outgoing (session : ClientSession) (cseq : Nat) (message : Message) : Message :=
  let message := rtspClientSessionUrlGenerate session message
  let message := if session.id.isEmpty then message else message.setSessionId session.id
  message.setCseq cseq

/-- `rtsp_client_session_request_process` -/
def rtspClientSessionRequestProcess (message : Message) : Attempt :=
  let created := if net.connect then some (rtspClientConnectionCreate j) else none
  match link.connection.or created with
  | none => ⟨link, message, false⟩
  | some connection =>
    let cseq := connection.lastCseq + 1
    let connection := { connection with lastCseq := cseq }
    let message := outgoing link.session cseq message
    if connection.sock && net.send cseq then
      ⟨rtspClientRequestPush timeout j connection link.session message, message, true⟩
    else ⟨⟨some connection, link.session⟩, message, false⟩

/-! ## Responses -/

/-- A resource is set up: the first one gives the session its id. -/
def resourceAdd (request response : Message) : Link :=
  let named := link.session.resourceTable.entries.isEmpty &&
    rtspHeaderPropertyCheck response.header .sessionId
  let session := if named then { link.session with id := response.header.sessionId }
    else link.session
  ⟨if named then link.connection.map (fun connection => { connection with
      sessionTable := connection.sessionTable.insert response.header.sessionId j })
    else link.connection,
    { session with resourceTable := session.resourceTable.insert request.resourceKey request }⟩

/-- A resource is torn down: the last one takes the session from the table. -/
def resourceRemove (request : Message) : Link :=
  let session := { link.session with
    resourceTable := link.session.resourceTable.erase request.resourceKey }
  ⟨if session.resourceTable.entries.isEmpty then link.connection.map (fun connection =>
      { connection with sessionTable := connection.sessionTable.erase session.id })
    else link.connection, session⟩

/-- The first part of `rtsp_client_session_response_process` -/
def resourceUpdate (request response : Message) : Link :=
  if request.methodId = .setup ∧ response.statusCode = statusCodeOk then
    resourceAdd j link request response
  else if request.methodId = .teardown then resourceRemove link request
  else link

/-- `on_session_response`, unless the session is terminating -/
def responseRaise (session : ClientSession) (request response : Message) : ClientSession :=
  if session.termState = .inprogress then session else session.note (.response request response)

/-- `rtsp_client_session_response_process` -/
def rtspClientSessionResponseProcess (request response : Message) : Link :=
  let link := resourceUpdate j link request response
  { link with session := responseRaise link.session request response }

/-- A request that cannot be sent is responded to with an error. -/
def errorRespond (request : Message) : Link :=
  rtspClientSessionResponseProcess j link request (rtspResponseCreate request
    statusCodeInternalServerError reasonPhraseInternalServerError)

/-- The loop of `rtsp_client_session_pending_requests_process`: the pending
queue is emptied until a request can be sent. -/
def pendingLoop (net : Net) (timeout j : Nat) : List Message → Link → Link × Bool
  | [], link => (⟨link.connection, { link.session with pendingRequestQueue := [] }⟩, false)
  | request :: queue, link =>
    let attempt := rtspClientSessionRequestProcess net timeout j
      ⟨link.connection, { link.session with pendingRequestQueue := queue }⟩ request
    if attempt.sent then (attempt.link, true)
    else pendingLoop net timeout j queue (errorRespond j attempt.link attempt.message)

/-- `rtsp_client_session_pending_requests_process` -/
def rtspClientSessionPendingRequestsProcess : Link × Bool :=
  pendingLoop net timeout j link.session.pendingRequestQueue link

/-- `rtsp_client_session_message_process` -/
def rtspClientSessionMessageProcess (message : Message) : Link :=
  if link.session.activeRequest.isSome then
    { link with session := { link.session with
        pendingRequestQueue := link.session.pendingRequestQueue ++ [message] } }
  else
    let attempt := rtspClientSessionRequestProcess net timeout j link message
    if attempt.sent then attempt.link else errorRespond j attempt.link attempt.message

/-! ## Termination -/

/-- `rtsp_client_session_terminate_respond` -/
def rtspClientSessionTerminateRespond : Link :=
  ⟨link.connection.map (fun connection => { connection with
      handleTable := connection.handleTable.erase j }),
    { link.session with termState := .none }.note .terminateResponse⟩

/-- `rtsp_client_session_resources_teardown` -/
def rtspClientSessionResourcesTeardown : Link :=
  let setups := link.session.resourceTable.entries.map Sigma.snd
  setups.foldl (fun link setup => rtspClientSessionMessageProcess net timeout j link
      (rtspRequestCreate .teardown setup.resourceName))
    { link with session := { link.session with termState := .inprogress } }

/-- `rtsp_client_connection_destroy`, when no session uses the connection. -/
def connectionRelease : Link :=
  { link with connection := link.connection.map (fun connection =>
      if connection.handleTable.isEmpty then { connection with sock := false } else connection) }

/-- The session is terminated when no resources are left. -/
def terminateCheck : Link :=
  if link.session.resourceTable.entries.isEmpty then
    connectionRelease (rtspClientSessionTerminateRespond j link)
  else link

/-- `rtsp_client_session_terminate_process` -/
def rtspClientSessionTerminateProcess : Link :=
  if link.connection.isNone then { link with session := link.session.note .terminateResponse }
  else if link.session.activeRequest.isSome then
    { link with session := { link.session with termState := .requested } }
  else terminateCheck j (rtspClientSessionResourcesTeardown net timeout j link)

/-- The end of `rtsp_client_message_handler` for a response: there is no
request in progress. -/
def terminationProceed : Link :=
  match link.session.termState with
  | .none => link
  | .requested => terminateCheck j (rtspClientSessionResourcesTeardown net timeout j link)
  | .inprogress => terminateCheck j link

/-- A response to a request that has been taken from the queue. -/
def responseHandle (request response : Message) : Link :=
  let pending := rtspClientSessionPendingRequestsProcess net timeout j
    (rtspClientSessionResponseProcess j link request response)
  if pending.2 then pending.1 else terminationProceed net timeout j pending.1

/-- The loop of `rtsp_client_session_terminate_raise`: the responses are made
from the active request, so there is no outcome without it. -/
def pendingCancel (j : Nat) : List Message → Link → Option Link
  | [], link => some ⟨link.connection, { link.session with pendingRequestQueue := [] }⟩
  | request :: queue, link =>
    link.session.activeRequest.bind (fun active =>
      pendingCancel j queue (rtspClientSessionResponseProcess j
        ⟨link.connection, { link.session with pendingRequestQueue := queue }⟩ request
        (rtspResponseCreate active statusCodeInternalServerError
          reasonPhraseInternalServerError)))

/-- `rtsp_client_session_terminate_raise` -/
def rtspClientSessionTerminateRaise : Option Link :=
  (pendingCancel j link.session.pendingRequestQueue link).map (fun link =>
    if link.session.termState = .none then
      { link with session := link.session.note .terminateEvent }
    else rtspClientSessionTerminateRespond j link)

end

/-! ## The client -/

namespace Client

/-- The session `j` and its connection. -/
def link (client : Client) (j : Nat) : Option Link :=
  (client.sessions[j]?).map (fun session =>
    ⟨session.connection.bind (client.connections[·]?), session⟩)

/-- The session `j` and its connection, which may be new, are stored. -/
def store (client : Client) (j : Nat) (link : Link) : Client :=
  match link.session.connection, link.connection with
  | some c, some connection =>
    ⟨client.sessions.set j link.session, client.connections.set c connection⟩
  | none, some connection =>
    ⟨client.sessions.set j { link.session with connection := some client.connections.length },
      client.connections ++ [connection]⟩
  | _, none => { client with sessions := client.sessions.set j link.session }

def modifyLink (client : Client) (j : Nat) (f : Link → Link) : Client :=
  match client.link j with
  | none => client
  | some link => client.store j (f link)

end Client

section

variable (net : Net) (timeout : Nat) (client : Client)

/-- The session whose request in progress has the CSeq. -/
def inprogressFind (connection : ClientConnection) (cseq : Nat) : Option Nat :=
  connection.inprogressRequestQueue.find? (fun j =>
    (client.sessions[j]?).any (fun session =>
      session.activeRequest.any (fun request => request.header.cseq == cseq)))

/-- `rtsp_client_request_pop`, when the session `j` has been found. -/
def rtspClientRequestPop (j : Nat) (link : Link) : Link :=
  ⟨link.connection.map (fun connection => { connection with
      inprogressRequestQueue := connection.inprogressRequestQueue.erase j }),
    { link.session with activeRequest := none, requestTimer := false }⟩

/-- A response is matched with its request. -/
def responseReceive (connection : ClientConnection) (response : Message) : Client :=
  match inprogressFind client connection response.header.cseq with
  | none => client
  | some j => client.modifyLink j (fun link =>
      match link.session.activeRequest with
      | none => link
      | some request => responseHandle net timeout j (rtspClientRequestPop j link) request response)

/-- `rtsp_client_session_event_process` -/
def rtspClientSessionEventProcess (connection : ClientConnection) (message : Message) : Client :=
  if rtspHeaderPropertyCheck message.header .sessionId then
    match connection.sessionTable.lookup message.header.sessionId with
    | none => client
    | some j => client.modifyLink j (fun link =>
        { link with session := link.session.note (.event message) })
  else client

/-- `rtsp_client_message_handler` -/
def rtspClientMessageHandler (c : Nat) (message : Message) : Client :=
  match client.connections[c]? with
  | none => client
  | some connection =>
    match message.startLine with
    | .response _ => responseReceive net timeout client connection message
    | .request _ => rtspClientSessionEventProcess client connection message
    | .unknown => client

/-- `rtsp_client_request_cancel` -/
def rtspClientRequestCancel (j statusCode reason : Nat) : Client × Bool :=
  match client.sessions[j]? with
  | none => (client, false)
  | some session =>
    match session.activeRequest, session.connection with
    | some request, some c =>
      (rtspClientMessageHandler net timeout client c (rtspResponseCreate request statusCode reason),
        true)
    | _, _ => (client, false)

/-- `apt_timer_kill` for the timer of the session `j` -/
def timerKill (j : Nat) : Client :=
  { client with sessions := client.sessions.modify j (fun session =>
      { session with requestTimer := false }) }

def Client.setConnection (c : Nat) (connection : ClientConnection) : Client :=
  { client with connections := client.connections.set c connection }

/-- The first loop of `rtsp_client_on_disconnect`: the session is taken from
the queue, and then its request is cancelled.  Nothing is added to the queue, as
the socket is closed. -/
def inprogressCancel (net : Net) (timeout c : Nat) : Nat → Client → Client
  | 0, client => client
  | n + 1, client =>
    match client.connections[c]? with
    | none => client
    | some connection =>
      match connection.inprogressRequestQueue with
      | [] => client
      | j :: queue =>
        let client := client.setConnection c { connection with inprogressRequestQueue := queue }
        let cancelled := rtspClientRequestCancel net timeout client j
          statusCodeInternalServerError reasonPhraseInternalServerError
        inprogressCancel net timeout c n (if cancelled.2 then timerKill cancelled.1 j
          else cancelled.1)

/-- The body of the loop over the sessions of `rtsp_client_on_disconnect`. -/
def terminateRaise (j : Nat) : Option Client :=
  match client.link j with
  | none => some client
  | some link => (rtspClientSessionTerminateRaise j link).map (client.store j)

/-- `rtsp_client_on_disconnect` -/
def rtspClientOnDisconnect (c : Nat) (connection : ClientConnection) : Option Client :=
  let client := inprogressCancel net timeout c connection.inprogressRequestQueue.length
    (client.setConnection c { connection with sock := false })
  match client.connections[c]? with
  | none => some client
  | some connection =>
    if connection.handleTable.isEmpty then some client
    else (connection.sessionTable.entries.map Sigma.snd).foldlM terminateRaise client

/-! ## The task of the client -/

/-- What arrives at the task of the client. -/
inductive ClientInput where
  /-- a session is created -/
  | create (serverIp : Bytes) (serverPort : Nat) (resourceLocation : Bytes)
  /-- TASK_MSG_SEND_MESSAGE -/
  | request (session : Nat) (message : Message)
  /-- TASK_MSG_TERMINATE_SESSION -/
  | terminate (session : Nat)
  /-- a message has been received -/
  | receive (connection : Nat) (message : Message)
  | disconnect (connection : Nat)
  /-- the timer of a session elapses -/
  | timer (session : Nat)
  deriving Repr, DecidableEq

/-- The request is in the history, unless the session is terminating. -/
def submit (session : ClientSession) (message : Message) : ClientSession :=
  if session.termState = .inprogress then session else session.note (.request message)

/-- One message to the task, or one event of its poller.  There is no outcome
for what the application must not do: use a session that it has destroyed,
terminate it twice, or send a request that does not name a resource. -/
def clientStep (input : Net × ClientInput) : Option Client :=
  match input.2 with
  | .create serverIp serverPort resourceLocation => some { client with
      sessions := client.sessions ++
        [rtspClientSessionCreate serverIp serverPort resourceLocation] }
  | .request j message =>
    (client.link j).bind (fun link =>
      if link.session.gone || message.resourceName.isNone then none
      else some (client.store j (rtspClientSessionMessageProcess input.1 timeout j
        { link with session := submit link.session message } message)))
  | .terminate j =>
    (client.link j).bind (fun link =>
      if link.session.gone || link.session.termState != .none then none
      else some (client.store j (rtspClientSessionTerminateProcess input.1 timeout j
        { link with session := link.session.note .terminateRequest })))
  | .receive c message =>
    (client.connections[c]?).map (fun connection =>
      if connection.sock then rtspClientMessageHandler input.1 timeout client c message else client)
  | .disconnect c =>
    (client.connections[c]?).bind (fun connection =>
      if connection.sock then rtspClientOnDisconnect input.1 timeout client c connection
      else some client)
  | .timer j =>
    (client.sessions[j]?).bind (fun session =>
      if session.requestTimer then
        some (rtspClientRequestCancel input.1 timeout (timerKill client j) j
          statusCodeRequestTimeout reasonPhraseRequestTimeout).1
      else none)

end

end UniMrcp.Rtsp
