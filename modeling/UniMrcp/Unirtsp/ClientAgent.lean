import UniMrcp.Lib.Runs
import UniMrcp.Mrcp.Stream
import UniMrcp.Rtsp.Message

/-!
# The tunnel of the RTSP client agent

A model of the control part of `mrcp-unirtsp/src/mrcp_unirtsp_client_agent.c`:
an MRCPv1 request is the body of an RTSP ANNOUNCE, its response the body of the
RTSP response, and an event the body of an ANNOUNCE of the server.

The agent saves one request, `session->mrcp_message`, to make a response of its
own when the body of an RTSP response cannot be parsed.  The same function
handles the events, and it clears the saved request.

The RTSP client passes the RTSP responses to the agent in the order of the
requests; SETUP, TEARDOWN and DESCRIBE do not touch the saved request and are
left out.
-/

namespace UniMrcp.Unirtsp

open UniMrcp.Lib UniMrcp.Lib.Runs UniMrcp.Apt UniMrcp.Mrcp

/-! ## Resource names -/

/-- `strcasecmp(s, t) == 0` -/
def strcasecmpEq (s t : Bytes) : Bool := s.map toLower == t.map toLower

/-- `resource_map`: the name of a resource in MRCP, and its name in RTSP. -/
abbrev ResourceMap := List (Bytes × Bytes)

/-- `mrcp_name_get_by_rtsp_name` -/
def mrcpNameGetByRtspName (resourceMap : ResourceMap) (rtspName : Option Bytes) : Bytes :=
  ((rtspName.bind (fun name => resourceMap.find? (fun entry => strcasecmpEq entry.2 name))).map
    Prod.fst).getD (bytesOf "unknown")

/-- `rtsp_name_get_by_mrcp_name` -/
def rtspNameGetByMrcpName (resourceMap : ResourceMap) (mrcpName : Bytes) : Bytes :=
  ((resourceMap.find? (fun entry => strcasecmpEq entry.1 mrcpName)).map Prod.snd).getD mrcpName

/-! ## The agent -/

/-- `mrcp_unirtsp_agent_t`, with the settings of the session -/
structure Agent where
  resourceFactory : ResourceFactory
  resourceMap : ResourceMap

/-- What has happened in a session. -/
inductive Note where
  /-- a control request has been sent -/
  | sent (request : MrcpMessage)
  /-- the RTSP response to a control request has come in -/
  | responded (request : MrcpMessage)
  /-- a message has been passed to `mrcp_session_control_response` -/
  | delivered (message : MrcpMessage)

/-- `mrcp_unirtsp_session_t`, with the requests that the RTSP client has not
responded to and with its history -/
structure AgentSession where
  mrcpMessage : Option MrcpMessage
  outstanding : List (Rtsp.Message × MrcpMessage)
  log : List Note

/-- `mrcp_unirtsp_session_create` -/
def mrcpUnirtspSessionCreate : AgentSession := ⟨none, [], []⟩

/-- `mrcp_message_generate`: the message without its body. -/
def mrcpMessageGenerate (memory : Nat → UInt8) (message : MrcpMessage) (stream : TxStream) :
    Bool × MrcpMessage × TxStream :=
  match mrcpGeneratorOnStart memory message stream with
  | (false, message, stream) => (false, message, stream)
  | (true, message, stream) =>
    match aptHeaderSectionGenerate message.header.headerSection stream with
    | (false, stream) => (false, message, stream)
    | (true, stream) =>
      match mrcpStartLineFinalize message.startLine message.body.length stream with
      | (ok, startLine, stream) => (ok, { message with startLine := startLine }, stream)

/-- The ANNOUNCE of a control request. -/
def announceCreate (resourceName : Bytes) (body : Bytes) : Rtsp.Message :=
  let request := Rtsp.rtspRequestCreate .announce (some resourceName)
  let header := Rtsp.rtspHeaderPropertyAdd { request.header with contentType := .mrcp } .contentType
  let header := Rtsp.rtspHeaderPropertyAdd { header with contentLength := body.length }
    .contentLength
  { request with header := header, body := body }

section

variable (memory : Nat → UInt8) (agent : Agent) (session : AgentSession)

/-- `mrcp_unirtsp_session_control` -/
def mrcpUnirtspSessionControl (message : MrcpMessage) : AgentSession :=
  let message := { message with startLine := { message.startLine with version := .v1 } }
  match mrcpMessageGenerate memory message ⟨[], 2000⟩ with
  | (false, _, _) => session
  | (true, message, stream) =>
    let announce := announceCreate
      (rtspNameGetByMrcpName agent.resourceMap message.channelId.resourceName)
      (stream.out ++ message.body)
    { mrcpMessage := some message
      outstanding := session.outstanding ++ [(announce, message)]
      log := session.log ++ [.sent message] }

/-- The MRCP message in the body of an RTSP message. -/
def tunnelledMessage (message : Rtsp.Message) (resourceName : Bytes) : Option MrcpMessage :=
  let header := message.header
  if Rtsp.rtspHeaderPropertyCheck header .contentType && header.contentType == .mrcp &&
      Rtsp.rtspHeaderPropertyCheck header .contentLength && header.contentLength > 0 then
    let parser := ⟨agent.resourceFactory, mrcpResourceFind agent.resourceFactory resourceName⟩
    let result := mrcpParserRun parser (aptMessageParserCreate MrcpMessage)
      ⟨[], message.body, [], false⟩
    if result.status = .complete then
      result.message.map (fun mrcpMessage => { mrcpMessage with
        channelId := { mrcpMessage.channelId with sessionId := header.sessionId } })
    else result.message
  else none

/-- The response that the agent makes itself. -/
def methodFailed (request : MrcpMessage) : MrcpMessage :=
  let response := mrcpResponseCreate request
  { response with startLine := { response.startLine with statusCode := statusCodeMethodFailed } }

/-- `mrcp_unirtsp_on_announce_response` -/
def mrcpUnirtspOnAnnounceResponse (message : Rtsp.Message) (resourceName : Bytes) : AgentSession :=
  let mrcpMessage := match tunnelledMessage agent message resourceName with
    | some mrcpMessage => some mrcpMessage
    | none => session.mrcpMessage.map methodFailed
  match mrcpMessage with
  | none => session
  | some mrcpMessage => { session with
      mrcpMessage := none
      log := session.log ++ [.delivered mrcpMessage] }

/-- `mrcp_unirtsp_on_session_response`, for an ANNOUNCE -/
def mrcpUnirtspOnSessionResponse (request response : Rtsp.Message) : AgentSession :=
  mrcpUnirtspOnAnnounceResponse agent session response
    (mrcpNameGetByRtspName agent.resourceMap request.resourceName)

/-- `mrcp_unirtsp_on_session_event` -/
def mrcpUnirtspOnSessionEvent (message : Rtsp.Message) : AgentSession :=
  mrcpUnirtspOnAnnounceResponse agent session message
    (mrcpNameGetByRtspName agent.resourceMap message.resourceName)

/-- What the agent is called with: a control request of the session, the RTSP
response to the first ANNOUNCE that has none, an ANNOUNCE of the server. -/
inductive AgentInput where
  | control (message : MrcpMessage)
  | response (message : Rtsp.Message)
  | event (message : Rtsp.Message)

def agentStep : AgentInput → Option AgentSession
  | .control message => some (mrcpUnirtspSessionControl memory agent session message)
  | .event message => some (mrcpUnirtspOnSessionEvent agent session message)
  | .response message =>
    match session.outstanding with
    | [] => none
    | (announce, request) :: rest =>
      some (mrcpUnirtspOnSessionResponse agent
        { session with outstanding := rest, log := session.log ++ [.responded request] }
        announce message)

end

/-! ## The requests and their responses -/

/-- `message->start_line.message_type == MRCP_MESSAGE_TYPE_RESPONSE` -/
def isResponse (message : MrcpMessage) : Bool := message.startLine.messageType == .response

namespace Note

@[simp]
def sent? : Note → Option MrcpMessage
  | .sent request => some request
  | _ => none

@[simp]
def responded? : Note → Option MrcpMessage
  | .responded request => some request
  | _ => none

/-- The response that is delivered. -/
@[simp]
def response? : Note → Option MrcpMessage
  | .delivered message => if isResponse message then some message else none
  | _ => none

end Note

/-- The request that was sent last, if no message has been delivered since; the
log is read from its end. -/
def lastSent : List Note → Option MrcpMessage
  | [] => none
  | .sent request :: _ => some request
  | .delivered _ :: _ => none
  | .responded _ :: log => lastSent log

abbrev sentRequests (log : List Note) : List MrcpMessage := log.filterMap Note.sent?

abbrev respondedRequests (log : List Note) : List MrcpMessage := log.filterMap Note.responded?

abbrev deliveredResponses (log : List Note) : List MrcpMessage := log.filterMap Note.response?

/-- The requests that have been sent are those that RTSP has responded to, and
the ones that are outstanding; for each of the former one response has been
delivered, in the same order and with the id of its request, and no other. -/
def Tunnelled (session : AgentSession) : Prop :=
  sentRequests session.log =
      respondedRequests session.log ++ session.outstanding.map Prod.snd ∧
    (deliveredResponses session.log).map MrcpMessage.requestId =
      (respondedRequests session.log).map MrcpMessage.requestId

/-- The steps that keep this.  An ANNOUNCE of the server carries no response,
and it carries an MRCP message unless nothing is saved; an RTSP response
carries the response to its request, or it carries no MRCP message, and the
request is the last one sent and nothing has been delivered since. -/
def Fits (agent : Agent) (session : AgentSession) : AgentInput → Prop
  | .control _ => True
  | .event message =>
    match tunnelledMessage agent message
        (mrcpNameGetByRtspName agent.resourceMap message.resourceName) with
    | some mrcpMessage => isResponse mrcpMessage = false
    | none => lastSent session.log.reverse = none
  | .response message => ∀ first ∈ session.outstanding.head?,
    match tunnelledMessage agent message
        (mrcpNameGetByRtspName agent.resourceMap first.1.resourceName) with
    | some mrcpMessage =>
      isResponse mrcpMessage = true ∧ mrcpMessage.requestId = first.2.requestId
    | none => ∃ saved ∈ lastSent session.log.reverse, saved.requestId = first.2.requestId

/-- The invariant. -/
structure Tunnelling (session : AgentSession) : Prop where
  saved : session.mrcpMessage = lastSent session.log.reverse
  tunnelled : Tunnelled session

section Steps

variable {agent : Agent} {session : AgentSession} {rest : List (Rtsp.Message × MrcpMessage)}
  {request : MrcpMessage}

theorem isResponse_methodFailed (request : MrcpMessage) :
    isResponse (methodFailed request) = true := by
  unfold isResponse methodFailed
  rw [(mrcpResponseCreate_spec request).1]
  rfl

theorem methodFailed_requestId (request : MrcpMessage) :
    (methodFailed request).requestId = request.requestId :=
  (mrcpResponseCreate_spec request).2.1

/-- What `mrcp_unirtsp_on_announce_response` delivers. -/
def deliveredMessage (agent : Agent) (session : AgentSession) (message : Rtsp.Message)
    (resourceName : Bytes) : Option MrcpMessage :=
  (tunnelledMessage agent message resourceName).or (session.mrcpMessage.map methodFailed)

theorem onAnnounceResponse_none {message : Rtsp.Message} {resourceName : Bytes}
    (h : deliveredMessage agent session message resourceName = none) :
    mrcpUnirtspOnAnnounceResponse agent session message resourceName = session := by
  unfold mrcpUnirtspOnAnnounceResponse
  unfold deliveredMessage at h
  cases htunnelled : tunnelledMessage agent message resourceName with
  | none =>
    rw [htunnelled, Option.none_or] at h
    simp [h]
  | some mrcpMessage =>
    rw [htunnelled] at h
    cases h

theorem onAnnounceResponse_some {message : Rtsp.Message} {resourceName : Bytes}
    {mrcpMessage : MrcpMessage}
    (h : deliveredMessage agent session message resourceName = some mrcpMessage) :
    mrcpUnirtspOnAnnounceResponse agent session message resourceName = { session with
      mrcpMessage := none, log := session.log ++ [.delivered mrcpMessage] } := by
  unfold mrcpUnirtspOnAnnounceResponse
  unfold deliveredMessage at h
  cases htunnelled : tunnelledMessage agent message resourceName with
  | none =>
    rw [htunnelled, Option.none_or] at h
    simp [h]
  | some tunnelled =>
    rw [htunnelled] at h
    cases h
    rfl

@[simp]
theorem filterMap_note_cons (f : Note → Option MrcpMessage) (note : Note) (log : List Note) :
    (note :: log).filterMap f = (f note).toList ++ log.filterMap f := by
  rw [List.filterMap_cons]
  cases f note <;> rfl

/-- A control request is sent, or the message cannot be generated. -/
theorem Tunnelling.control (memory : Nat → UInt8) (message : MrcpMessage)
    (h : Tunnelling session) :
    Tunnelling (mrcpUnirtspSessionControl memory agent session message) := by
  unfold mrcpUnirtspSessionControl
  dsimp only
  split
  · exact h
  · obtain ⟨hsent, hresponses⟩ := h.tunnelled
    refine ⟨by simp [lastSent], ?_, ?_⟩
    · simp [hsent]
    · simpa using hresponses

/-- A message is delivered while no RTSP response is handled. -/
theorem tunnelled_event_iff (message : MrcpMessage) (h : Tunnelled session) :
    Tunnelled { session with mrcpMessage := none, log := session.log ++ [.delivered message] } ↔
      isResponse message = false := by
  obtain ⟨hsent, hresponses⟩ := h
  unfold Tunnelled
  cases hresponse : isResponse message with
  | false => simp [hsent, hresponses, hresponse]
  | true =>
    refine iff_of_false (fun hboth => ?_) (by simp)
    have hlength := congrArg List.length hboth.2
    simp [hresponses, hresponse] at hlength

/-- A message is delivered with an RTSP response. -/
theorem tunnelled_response_iff (message : MrcpMessage) {announce : Rtsp.Message}
    (h : Tunnelled session) (hfirst : session.outstanding = (announce, request) :: rest) :
    Tunnelled ⟨none, rest, session.log ++ [.responded request] ++ [.delivered message]⟩ ↔
      isResponse message = true ∧ message.requestId = request.requestId := by
  obtain ⟨hsent, hresponses⟩ := h
  unfold Tunnelled
  cases hresponse : isResponse message with
  | true => simp [hsent, hresponses, hresponse, hfirst]
  | false =>
    refine iff_of_false (fun hboth => ?_) (by simp)
    have hlength := congrArg List.length hboth.2
    simp [hresponses, hresponse] at hlength

/-- Nothing is delivered with an RTSP response. -/
theorem not_tunnelled_response {saved : Option MrcpMessage} (h : Tunnelled session) :
    ¬ Tunnelled ⟨saved, rest, session.log ++ [.responded request]⟩ := by
  rintro ⟨-, hresponses⟩
  have hlength := congrArg List.length hresponses
  simp [h.2] at hlength

/-- An ANNOUNCE of the server. -/
theorem Tunnelling.event (message : Rtsp.Message) (h : Tunnelling session) :
    (Fits agent session (.event message) →
      Tunnelling (mrcpUnirtspOnSessionEvent agent session message)) ∧
    (Tunnelled (mrcpUnirtspOnSessionEvent agent session message) →
      Fits agent session (.event message)) := by
  unfold mrcpUnirtspOnSessionEvent Fits
  dsimp only
  rw [← h.saved]
  generalize mrcpNameGetByRtspName agent.resourceMap message.resourceName = name
  cases htunnelled : tunnelledMessage agent message name with
  | some mrcpMessage =>
    have hdelivered : deliveredMessage agent session message name = some mrcpMessage := by
      rw [deliveredMessage, htunnelled, Option.some_or]
    rw [onAnnounceResponse_some hdelivered, tunnelled_event_iff mrcpMessage h.tunnelled]
    refine ⟨fun hevent => ⟨by simp [lastSent], ?_⟩, id⟩
    exact (tunnelled_event_iff mrcpMessage h.tunnelled).mpr hevent
  | none =>
    cases hsaved : session.mrcpMessage with
    | none =>
      have hdelivered : deliveredMessage agent session message name = none := by
        rw [deliveredMessage, htunnelled, hsaved]
        rfl
      rw [onAnnounceResponse_none hdelivered]
      exact ⟨fun _ => h, fun _ => rfl⟩
    | some saved =>
      have hdelivered : deliveredMessage agent session message name =
          some (methodFailed saved) := by
        rw [deliveredMessage, htunnelled, hsaved]
        rfl
      rw [onAnnounceResponse_some hdelivered, tunnelled_event_iff _ h.tunnelled,
        isResponse_methodFailed]
      exact ⟨fun hnone => (nomatch hnone), fun hfalse => (nomatch hfalse)⟩

/-- An RTSP response. -/
theorem Tunnelling.response (message : Rtsp.Message) {announce : Rtsp.Message}
    (h : Tunnelling session) (hfirst : session.outstanding = (announce, request) :: rest) :
    let session' := mrcpUnirtspOnSessionResponse agent
      { session with outstanding := rest, log := session.log ++ [.responded request] }
      announce message
    (Fits agent session (.response message) → Tunnelling session') ∧
      (Tunnelled session' → Fits agent session (.response message)) := by
  unfold mrcpUnirtspOnSessionResponse Fits
  rw [hfirst, ← h.saved]
  simp only [List.head?_cons, Option.mem_some_iff, forall_eq']
  generalize mrcpNameGetByRtspName agent.resourceMap announce.resourceName = name
  have hiff := fun mrcpMessage => tunnelled_response_iff mrcpMessage h.tunnelled hfirst
  cases htunnelled : tunnelledMessage agent message name with
  | some mrcpMessage =>
    rw [onAnnounceResponse_some (by rw [deliveredMessage, htunnelled, Option.some_or])]
    exact ⟨fun hfits => ⟨by simp [lastSent], (hiff mrcpMessage).mpr hfits⟩, (hiff mrcpMessage).mp⟩
  | none =>
    cases hsaved : session.mrcpMessage with
    | none =>
      rw [onAnnounceResponse_none (by rw [deliveredMessage, htunnelled]; rfl)]
      refine ⟨fun ⟨_, hnone, _⟩ => (nomatch hnone), fun htunnels => ?_⟩
      exact absurd htunnels (not_tunnelled_response h.tunnelled)
    | some saved =>
      have hresponse : isResponse (methodFailed saved) = true ∧
          (methodFailed saved).requestId = request.requestId ↔
          ∃ saved' ∈ some saved, saved'.requestId = request.requestId := by
        simp [isResponse_methodFailed, methodFailed_requestId]
      rw [onAnnounceResponse_some (by rw [deliveredMessage, htunnelled]; rfl), ← hresponse]
      exact ⟨fun hfits => ⟨by simp [lastSent], (hiff _).mpr hfits⟩, (hiff _).mp⟩

end Steps

/-- For every control request one response is delivered, and no other, in every
state of a run, exactly if every step of the run fits. -/
theorem control_requests_tunnelled_iff (memory : Nat → UInt8) (agent : Agent)
    (inputs : List AgentInput) :
    Always (agentStep memory agent) Tunnelled mrcpUnirtspSessionCreate inputs ↔
      Along (agentStep memory agent) (Fits agent) mrcpUnirtspSessionCreate inputs := by
  have hstep : ∀ session input session', Tunnelling session →
      agentStep memory agent session input = some session' →
      (Fits agent session input → Tunnelling session') ∧
        (Tunnelled session' → Fits agent session input) := by
    intro session input session' h hstep
    cases input with
    | control message =>
      cases hstep
      exact ⟨fun _ => h.control memory message, fun _ => trivial⟩
    | event message =>
      cases hstep
      exact h.event message
    | response message =>
      unfold agentStep at hstep
      cases hfirst : session.outstanding with
      | nil =>
        rw [hfirst] at hstep
        cases hstep
      | cons first rest =>
        rw [hfirst] at hstep
        cases hstep
        exact h.response message hfirst
  exact always_iff_along (fun _ h => h.tunnelled)
    (fun session input session' h _ hfits hnext => (hstep session input session' h hnext).1 hfits)
    (fun session input session' h _ ht hnext => (hstep session input session' h hnext).2 ht)
    inputs mrcpUnirtspSessionCreate ⟨rfl, rfl, rfl⟩ (Along.true inputs _)

/-- An agent with the recognizer under its usual names. -/
def recognizerAgent : Agent :=
  ⟨[.recognizer], [(bytesOf "speechrecog", bytesOf "speechrecognizer")]⟩

/-- A STOP request. -/
def stopRequest : MrcpMessage :=
  { mrcpMessageCreate with
    startLine := { mrcpStartLineInit with
      messageType := .request, methodName := bytesOf "STOP", requestId := 2 }
    channelId := ⟨[], bytesOf "speechrecog"⟩ }

/-- The ANNOUNCE of the server with the START-OF-SPEECH event of the request
that is to be stopped. -/
def startOfSpeech : Rtsp.Message :=
  announceCreate (bytesOf "speechrecognizer")
    (bytesOf "START-OF-SPEECH 1 IN-PROGRESS MRCP/1.0\r\n\r\n")

/-- The request times out. -/
def requestTimeout : Rtsp.Message :=
  Rtsp.rtspResponseCreate (announceCreate (bytesOf "speechrecognizer") [])
    Rtsp.statusCodeRequestTimeout Rtsp.reasonPhraseRequestTimeout

/-- An event comes before the RTSP response, which is a failure: no response is
delivered for the request. -/
theorem control_request_lost_behind_event :
    ∃ session ∈ after (agentStep (fun _ => 0) recognizerAgent) mrcpUnirtspSessionCreate
        [.control stopRequest, .event startOfSpeech, .response requestTimeout],
      ((respondedRequests session.log).map MrcpMessage.requestId = [2] ∧
        session.outstanding = [] ∧ deliveredResponses session.log = []) ∧
      ¬ Tunnelled session := by
  refine ⟨_, rfl, by decide +kernel, fun htunnelled => ?_⟩
  exact absurd htunnelled.2 (by decide +kernel)

end UniMrcp.Unirtsp
