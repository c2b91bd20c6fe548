import UniMrcp.Lib.Loops
import UniMrcp.Mrcp.Message

/-!
# The client session

A model of `mrcp-client/src/mrcp_client_session.c`.  The application sends
requests to a session; one of them is `activeRequest`, and the others wait in
`requestQueue`.  A request may need sub-requests to the connection agent and to
the media engine, which are counted in `subrequestCount`, and requests to the
signaling agent.  Their responses come as messages to the task of the client,
never inside the call that sent the request.

Every function that ends a request is the last thing its caller does, so the
next request of the queue is taken after the function has returned: `Outcome`
says whether it is.

Two fields are not in the source; they are the history that properties of a
session speak about:

* `awaited`, the responses that have been requested and have not arrived;
* `log`, what the application has been told, and the removal of the session
  from the table of the client.

Addresses, codecs and the settings of a profile are left out, and so is the
video media, which the session only counts.
-/

namespace UniMrcp.Client

open UniMrcp.Lib UniMrcp.Apt UniMrcp.Mrcp

/-! ## Descriptors -/

/-- `mrcp_sig_status_code_e` -/
inductive SigStatus where
  | success
  | failure
  | terminate
  | cancel
  deriving Repr, DecidableEq

/-- `mpf_stream_direction_e`, a mask of two bits. -/
structure StreamDirection where
  send : Bool
  receive : Bool
  deriving Repr, DecidableEq

namespace StreamDirection

/-- `mpf_stream_reverse_direction_get` -/
def reverse (d : StreamDirection) : StreamDirection := ⟨d.receive, d.send⟩

def union (d e : StreamDirection) : StreamDirection := ⟨d.send || e.send, d.receive || e.receive⟩

def diff (d e : StreamDirection) : StreamDirection := ⟨d.send && !e.send, d.receive && !e.receive⟩

end StreamDirection

/-- `mpf_rtp_media_descriptor_t` -/
structure RtpMedia where
  id : Nat
  mid : Nat
  direction : StreamDirection
  enabled : Bool
  deriving Repr, DecidableEq

/-- The direction of a stream is added to the media or taken from it. -/
def RtpMedia.enable (media : RtpMedia) (direction : StreamDirection) (enable : Bool) : RtpMedia :=
  let direction := if enable then media.direction.union direction
    else media.direction.diff direction
  { media with direction := direction, enabled := direction.send || direction.receive }

/-- `mpf_rtp_termination_descriptor_t`: the local and the remote audio
media. -/
structure RtpDescriptor where
  localMedia : Option RtpMedia
  remoteMedia : Option RtpMedia
  deriving Repr, DecidableEq

/-- `mrcp_control_descriptor_t` -/
structure ControlMedia where
  id : Nat
  resourceName : Bytes
  sessionId : Bytes
  port : Nat
  cmids : List Nat
  deriving Repr, DecidableEq

/-- `mrcp_session_descriptor_t` of the offer, of an answer, and of discovered
resources. -/
structure Descriptor where
  responseCode : Int
  resourceName : Bytes
  resourceState : Bool
  controlMedia : List ControlMedia
  audioMedia : List RtpMedia
  deriving Repr, DecidableEq

namespace Descriptor

/-- `mrcp_session_descriptor_create` -/
def create : Descriptor := ⟨0, [], false, [], []⟩

/-- `mrcp_session_control_media_add`, with the id it returns -/
def controlMediaAdd (d : Descriptor) (media : ControlMedia) : Descriptor :=
  { d with controlMedia :=
      d.controlMedia ++ [{ media with id := d.controlMedia.length + d.audioMedia.length }] }

/-- `mrcp_session_audio_media_add`, with the ids that are set after it -/
def audioMediaAdd (d : Descriptor) (media : RtpMedia) : Descriptor :=
  { d with audioMedia := d.audioMedia ++
      [{ media with
        id := d.controlMedia.length + d.audioMedia.length
        mid := d.audioMedia.length + 1 }] }

end Descriptor

/-- `TCP_DISCARD_PORT` -/
def tcpDiscardPort : Nat := 9

/-! ## The session -/

/-- `mpf_termination_t` of a channel: the direction of its audio stream. -/
structure Termination where
  audioStream : Option StreamDirection
  deriving Repr, DecidableEq

/-- What `mrcp_client_channel_create` gets.  `id` tells the objects apart.  The
API creates no channel without a resource, and with a termination only in a
profile with a media engine and an RTP termination factory. -/
structure ChannelParams where
  id : Nat
  resource : MrcpResource
  termination : Option Termination
  rtpDescriptor : Option RtpDescriptor
  deriving Repr, DecidableEq

/-- `mrcp_channel_t` of a session; `rtpTerminationSlot` is the position of the
slot.  The slot that holds the descriptor of a new channel is the field of
`params`. -/
structure Channel where
  params : ChannelParams
  controlChannel : Bool
  rtpTerminationSlot : Nat
  waitingForChannel : Bool
  waitingForTermination : Bool
  deriving Repr, DecidableEq

/-- `rtp_termination_slot_t`; `channel` is the position of a channel. -/
structure TerminationSlot where
  waiting : Bool
  termination : Bool
  descriptor : Option RtpDescriptor
  channel : Nat
  id : Nat
  deriving Repr, DecidableEq

/-- `mrcp_app_message_t` of a request -/
inductive AppRequest where
  | sessionUpdate
  | sessionTerminate
  | channelAdd (channel : ChannelParams)
  | channelRemove (channel : ChannelParams)
  | resourceDiscover
  | control (channel : Nat) (message : MrcpMessage)
  deriving Repr, DecidableEq

/-- `control_message`, NULL for a signaling request -/
def AppRequest.controlMessage : AppRequest → Option MrcpMessage
  | .control _ message => some message
  | _ => none

/-- `mrcp_app_message_t` of a response -/
structure AppResponse where
  request : AppRequest
  status : SigStatus
  controlMessage : Option MrcpMessage
  descriptor : Option Descriptor
  deriving Repr, DecidableEq

/-- `mrcp_client_session_state_e` -/
inductive SessionState where
  | none
  | generatingOffer
  | processingAnswer
  | terminating
  | discovering
  deriving Repr, DecidableEq

/-- The responses a session asks for, with the position of the channel or of
the termination slot. -/
inductive Awaited where
  /-- of the connection agent -/
  | channelAdd (channel : Nat)
  | channelModify (channel : Nat)
  | channelRemove (channel : Nat)
  /-- of the media engine, for the termination of a channel -/
  | terminationAdd (channel : Nat)
  | terminationSubtract (channel : Nat)
  /-- of the media engine, for an RTP termination -/
  | slotAdd (slot : Nat)
  | slotModify (slot : Nat)
  | slotSubtract (slot : Nat)
  /-- of the media engine, for associations and the topology -/
  | topology
  /-- of the signaling agent -/
  | answer
  | terminate
  | discover
  /-- to an MRCP request -/
  | control (message : MrcpMessage)
  deriving Repr, DecidableEq

namespace Awaited

/-- The responses that `subrequest_count` counts. -/
def counted : Awaited → Bool
  | .answer | .control _ => false
  | _ => true

/-- The responses of the media engine, which come in the order of the
requests. -/
def isMedia : Awaited → Bool
  | .terminationAdd _ | .terminationSubtract _ | .slotAdd _ | .slotModify _ | .slotSubtract _
  | .topology => true
  | _ => false

end Awaited

/-- What happens outside of the session. -/
inductive Note where
  /-- a response to the application -/
  | response (response : AppResponse)
  /-- an MRCP event to the application -/
  | event (channel : Nat) (message : MrcpMessage)
  /-- a session TERMINATE event to the application -/
  | terminateEvent
  /-- `mrcp_client_session_remove` -/
  | removed
  deriving Repr, DecidableEq

/-- `mrcp_client_session_t` -/
structure Session where
  id : Bytes
  lastRequestId : UInt32
  context : Bool
  terminations : List TerminationSlot
  channels : List Channel
  registered : Bool
  offer : Option Descriptor
  answer : Option Descriptor
  activeRequest : Option AppRequest
  requestQueue : List AppRequest
  state : SessionState
  status : SigStatus
  subrequestCount : Nat
  disconnected : Bool
  awaited : List Awaited
  log : List Note
  deriving Repr, DecidableEq

/-- `mrcp_client_session_create` -/
def mrcpClientSessionCreate : Session :=
  ⟨[], 0, false, [], [], false, none, none, none, [], .none, .success, 0, false, [], []⟩

/-- `mrcp_profile_t`: the version, whether there are factories of connection
agents and media engines, and the resources. -/
structure Profile where
  version : MrcpVersion
  mpfFactory : Bool
  resourceFactory : ResourceFactory

/-- What the agents answer when the session calls them: whether they are found,
and whether they take a request.  Two requests for discovery may be made in one
step; the first argument of `discover` is the number of requests that still
wait. -/
structure Agents where
  signalingAgent : Bool
  connectionAgent : Bool
  mediaEngine : Bool
  createSession : Bool
  offer : Bool
  terminate : Bool
  control : Bool
  discover : Nat → MrcpResource → Bool
  discoverAll : Nat → Bool

namespace Session

def modifyChannel (s : Session) (i : Nat) (f : Channel → Channel) : Session :=
  { s with channels := s.channels.modify i f }

def modifySlot (s : Session) (j : Nat) (f : TerminationSlot → TerminationSlot) : Session :=
  { s with terminations := s.terminations.modify j f }

/-- The waiting flag that belongs to a response. -/
def setWaiting (s : Session) (waiting : Bool) : Awaited → Session
  | .channelAdd i | .channelModify i | .channelRemove i =>
    s.modifyChannel i (fun channel => { channel with waitingForChannel := waiting })
  | .terminationAdd i | .terminationSubtract i =>
    s.modifyChannel i (fun channel => { channel with waitingForTermination := waiting })
  | .slotAdd j | .slotModify j | .slotSubtract j =>
    s.modifySlot j (fun slot => { slot with waiting := waiting })
  | .topology | .answer | .terminate | .discover | .control _ => s

/-- A request has been sent: the flag is set, and
`mrcp_client_session_subrequest_add` counts it. -/
def await (s : Session) (r : Awaited) : Session :=
  let s := s.setWaiting true r
  { s with
    awaited := s.awaited ++ [r]
    subrequestCount := if r.counted then s.subrequestCount + 1 else s.subrequestCount }

def awaitIf (s : Session) (sent : Bool) (r : Awaited) : Session := if sent then s.await r else s

/-- `mrcp_client_session_state_set` -/
def stateSet (s : Session) (state : SessionState) : Session :=
  { s with subrequestCount := 0, state := state }

def note (s : Session) (n : Note) : Session := { s with log := s.log ++ [n] }

end Session

/-- What a function leaves to its caller: the session, and whether the next
request of the queue is taken. -/
structure Outcome where
  session : Session
  next : Bool
  deriving DecidableEq

def Outcome.keep (s : Session) : Outcome := ⟨s, false⟩

/-! ## Messages to the application -/

section

variable (profile : Profile) (agents : Agents) (s : Session)

/-- `mrcp_app_sig_response_raise` -/
def mrcpAppSigResponseRaise (processPendingRequests : Bool) : Outcome :=
  match s.activeRequest with
  | none => .keep s
  | some request =>
    let status : SigStatus := if s.disconnected then .terminate else s.status
    ⟨{ s with activeRequest := none, status := status }.note
      (.response ⟨request, status, request.controlMessage, none⟩), processPendingRequests⟩

/-- `mrcp_app_session_terminate_raise` -/
def mrcpAppSessionTerminateRaise (status : SigStatus) : Outcome :=
  let channels := s.channels.map (fun channel => { channel with controlChannel := false })
  let s := { s with channels := channels }.note .removed
  mrcpAppSigResponseRaise
    { s with status := if status = .success then s.status else status } false

/-- A response of the resource as the application sees it: it names the method
of the request. -/
def responseOf (request response : MrcpMessage) : MrcpMessage :=
  { response with startLine := { response.startLine with
      methodId := request.startLine.methodId
      methodName := request.startLine.methodName } }

/-- `mrcp_app_control_message_raise` -/
def mrcpAppControlMessageRaise (channel : Nat) (message : MrcpMessage) : Outcome :=
  match message.startLine.messageType with
  | .response =>
    match s.activeRequest with
    | none => .keep s
    | some request =>
      match request.controlMessage with
      | none => .keep s
      | some mrcpRequest =>
        ⟨{ s with activeRequest := none }.note
          (.response ⟨request, .success, some (responseOf mrcpRequest message), none⟩), true⟩
  | .event => .keep (s.note (.event channel message))
  | _ => .keep s

/-- The response to a request that has not been sent. -/
def methodFailed (message : MrcpMessage) : MrcpMessage :=
  let response := mrcpResponseCreate message
  { response with startLine := { response.startLine with statusCode := statusCodeMethodFailed } }

/-- `mrcp_app_failure_message_raise`; it leaves the queue alone. -/
def mrcpAppFailureMessageRaise : Outcome :=
  match s.activeRequest with
  | none => .keep s
  | some request =>
    .keep ({ s with activeRequest := none }.note
      (.response ⟨request, s.status, request.controlMessage.map methodFailed, none⟩))

/-! ## Requests of the application -/

/-- `mrcp_client_channel_find` -/
def mrcpClientChannelFind (id : Nat) : Option Nat :=
  s.channels.findIdx? (fun channel => channel.params.id == id)

/-- `mrcp_client_channel_find_by_name` -/
def mrcpClientChannelFindByName (name : Bytes) : Option Nat :=
  s.channels.findIdx? (fun channel => aptStringCompare channel.params.resource.name name)

/-- `mrcp_client_session_offer_send` -/
def mrcpClientSessionOfferSend : Session :=
  s.awaitIf agents.offer .answer

/-- The control channel of a channel that has been added. -/
def Session.hasControlChannel (id : Nat) : Bool :=
  ((mrcpClientChannelFind s id).bind (s.channels[·]?)).any Channel.controlChannel

/-- `mrcp_client_message_send` -/
def mrcpClientMessageSend (channel : Nat) (message : MrcpMessage) : Outcome :=
  if s.id.isEmpty then mrcpAppControlMessageRaise s channel (methodFailed message)
  else
    let s := { s with lastRequestId := s.lastRequestId + 1 }
    let message := { message with
      channelId := { message.channelId with sessionId := s.id }
      startLine := { message.startLine with requestId := s.lastRequestId } }
    .keep (s.awaitIf (s.hasControlChannel channel || agents.control) (.control message))

/-- The direction of the channel's stream in the offer. -/
def offerStream (offer : Descriptor) (channel : Channel) (enable : Bool) : Descriptor :=
  match channel.params.termination.bind Termination.audioStream,
    s.terminations[channel.rtpTerminationSlot]? with
  | some direction, some slot =>
    { offer with audioMedia :=
        offer.audioMedia.modify slot.id (fun media => media.enable direction.reverse enable) }
  | _, _ => offer

/-- The media of a channel in the offer. -/
def offerChannel (offer : Descriptor) (id : Nat) (enable : Bool) : Descriptor :=
  match mrcpClientChannelFind s id with
  | none => offer
  | some index =>
    let offer := { offer with controlMedia := offer.controlMedia.modify index (fun media =>
      { media with port := if enable then tcpDiscardPort else 0 }) }
    match s.channels[index]? with
    | none => offer
    | some channel => offerStream s offer channel enable

/-- `mrcp_client_channel_modify` -/
def mrcpClientChannelModify (channel : ChannelParams) (enable : Bool) : Session :=
  match s.offer with
  | none => s
  | some offer =>
    let offer := offerChannel s offer channel.id enable
    mrcpClientSessionOfferSend agents { s with
      offer := some { offer with
        resourceName := channel.resource.name
        resourceState := enable } }

/-- The control part of `mrcp_client_channel_add`: the resource of an MRCPv1
offer, or the control media and the control channel. -/
def channelOffer (offer : Descriptor) (channel : ChannelParams) : Descriptor :=
  match profile.version with
  | .v1 => { offer with resourceName := channel.resource.name, resourceState := true }
  | _ => offer.controlMediaAdd
      ⟨0, channel.resource.name, [], tcpDiscardPort, [offer.controlMedia.length + 1]⟩

/-- The descriptor for the RTP termination of a channel with a termination. -/
def rtpDescriptorInit (termination : Termination) : RtpDescriptor :=
  ⟨termination.audioStream.map (fun direction => ⟨0, 0, direction.reverse, true⟩), none⟩

/-- Audio media goes to the offer, and the slot gets its position. -/
def Session.offerMedia (j : Nat) (offer : Descriptor) (media : RtpMedia) : Session :=
  { s with offer := some (offer.audioMediaAdd media) }.modifySlot j (fun slot =>
    { slot with id := offer.audioMedia.length })

/-- The block "bypass media mode" of `mrcp_client_channel_add`: the audio media
that the application has given goes to the offer. -/
def bypassMedia (j : Nat) (descriptor : Option RtpDescriptor) : Session :=
  match descriptor.bind RtpDescriptor.localMedia, s.offer with
  | some media, some offer => s.offerMedia j offer media
  | _, _ => s

/-- The block "media termination mode". -/
def terminationAdd (i j : Nat) (termination : Termination) : Session :=
  let s := { s with context := true }.await (.terminationAdd i)
  let s := s.modifySlot j (fun slot =>
    { slot with termination := true, descriptor := some (rtpDescriptorInit termination) })
  s.await (.slotAdd j)

/-- The new channel and its slot. -/
def channelPush (channel : ChannelParams) : Session :=
  let offer := channelOffer profile (s.offer.getD .create) channel
  let s := { s with offer := some offer }.stateSet .generatingOffer
  let i := s.channels.length
  let j := s.terminations.length
  { s with
    channels := s.channels ++ [⟨channel, profile.version != .v1, j, false, false⟩]
    terminations := s.terminations ++ [⟨false, false, channel.rtpDescriptor, i, 0⟩] }

/-- The media of the new channel. -/
def channelMedia (i j : Nat) (channel : ChannelParams) : Session :=
  match channel.termination with
  | some termination => terminationAdd s i j termination
  | none => bypassMedia s j channel.rtpDescriptor

/-- `mrcp_client_channel_add` for a new channel. -/
def channelCreate (channel : ChannelParams) : Session :=
  let i := s.channels.length
  let j := s.terminations.length
  let s := (channelPush profile s channel).awaitIf (profile.version != .v1) (.channelAdd i)
  let s := channelMedia s i j channel
  if s.subrequestCount = 0 then mrcpClientSessionOfferSend agents s else s

/-- `mrcp_client_channel_add` -/
def mrcpClientChannelAdd (channel : ChannelParams) : Session :=
  match mrcpClientChannelFind s channel.id with
  | some _ => mrcpClientChannelModify agents s channel true
  | none => channelCreate profile agents s channel

/-- `mrcp_client_session_update` -/
def mrcpClientSessionUpdate : Session :=
  match s.offer with
  | none => s
  | some _ => mrcpClientSessionOfferSend agents s

/-- The loop over channels of `mrcp_client_session_terminate`. -/
def channelTerminate (i : Nat) : Session :=
  match s.channels[i]? with
  | none => s
  | some channel =>
    (s.awaitIf channel.controlChannel (.channelRemove i)).awaitIf
      channel.params.termination.isSome (.terminationSubtract i)

def channelsTerminate : Session := forLoop 0 s.channels.length channelTerminate s

/-- The loop over RTP terminations. -/
def slotTerminate (j : Nat) : Session :=
  s.awaitIf ((s.terminations[j]?).any TerminationSlot.termination) (.slotSubtract j)

def slotsTerminate : Session :=
  if s.context then forLoop 0 s.terminations.length slotTerminate s else s

/-- The request to the signaling agent; its response is counted even if the
agent does not take the request. -/
def terminateRequest : Session :=
  if agents.terminate then s.await .terminate
  else { s with subrequestCount := s.subrequestCount + 1 }

/-- `mrcp_client_session_terminate` -/
def mrcpClientSessionTerminate : Session :=
  let s := s.stateSet .terminating
  terminateRequest agents (slotsTerminate (channelsTerminate (s.awaitIf s.context .topology)))

/-- The requests of `mrcp_client_resource_discover`: MRCPv1 asks for one
resource at a time. -/
def discoverSend : Session :=
  let waiting := s.requestQueue.length
  match profile.version with
  | .v1 => profile.resourceFactory.foldl (fun s resource =>
      s.awaitIf (agents.discover waiting resource) .discover) s
  | _ => s.awaitIf (agents.discoverAll waiting) .discover

/-- `mrcp_client_resource_discover` -/
def mrcpClientResourceDiscover : Outcome :=
  let s := discoverSend profile agents ({ s with answer := none }.stateSet .discovering)
  if s.subrequestCount = 0 then mrcpAppSigResponseRaise { s with status := .failure } true
  else .keep s

/-- The agents are selected, and the session is created in the signaling
agent. -/
def agentsSelected : Bool :=
  let found := agents.signalingAgent && (profile.version != .v2 || agents.connectionAgent) &&
    (!profile.mpfFactory || agents.mediaEngine)
  -- a failure of an earlier request is still in `status`
  found && s.status != .failure && agents.createSession

/-- The switch at the end of `mrcp_app_request_dispatch`. -/
def requestProcess : AppRequest → Outcome
  | .sessionUpdate => .keep (mrcpClientSessionUpdate agents s)
  | .sessionTerminate => .keep (mrcpClientSessionTerminate agents s)
  | .channelAdd channel => .keep (mrcpClientChannelAdd profile agents s channel)
  | .channelRemove channel => .keep (mrcpClientChannelModify agents s channel false)
  | .resourceDiscover => mrcpClientResourceDiscover profile agents s
  | .control channel message => mrcpClientMessageSend agents s channel message

/-- `mrcp_app_request_dispatch` -/
def mrcpAppRequestDispatch (request : AppRequest) : Outcome :=
  if s.state = .terminating then .keep s
  else if s.disconnected && request != .sessionTerminate then
    mrcpAppFailureMessageRaise { s with status := .cancel }
  else if s.registered then requestProcess profile agents { s with status := .success } request
  else if request = .sessionTerminate then
    mrcpAppSigResponseRaise { s with status := .success } false
  else if agentsSelected profile agents s then
    requestProcess profile agents { s with registered := true, status := .success } request
  else mrcpAppFailureMessageRaise { s with status := .failure }

/-- The end of a request: `active_request` is the next of the queue, and it is
dispatched. -/
def nextRequest (profile : Profile) (agents : Agents) : List AppRequest → Session → Session
  | [], s => { s with activeRequest := none, requestQueue := [] }
  | request :: queue, s =>
    let o := mrcpAppRequestDispatch profile agents
      { s with activeRequest := some request, requestQueue := queue } request
    if o.next then nextRequest profile agents queue o.session else o.session

/-- The rest of a call that may have ended the active request. -/
def Outcome.finish (o : Outcome) : Session :=
  if o.next then nextRequest profile agents o.session.requestQueue o.session else o.session

/-- `mrcp_client_app_message_process` -/
def mrcpClientAppMessageProcess (request : AppRequest) : Outcome :=
  if s.activeRequest.isSome then .keep { s with requestQueue := s.requestQueue ++ [request] }
  else mrcpAppRequestDispatch profile agents { s with activeRequest := some request } request

/-! ## Responses -/

/-- `mrcp_client_session_subrequest_remove`, and what is done when the last
response has come. -/
def subrequestRemove (last : Session → Outcome) : Outcome :=
  if s.subrequestCount = 0 then .keep s
  else
    let s := { s with subrequestCount := s.subrequestCount - 1 }
    if s.subrequestCount = 0 then last s else .keep s

/-- A slot or a channel that is not waiting ignores the response. -/
def ifWaiting (waiting : Bool) (r : Awaited) (last : Session → Outcome) : Outcome :=
  if waiting then subrequestRemove (s.setWaiting false r) last else .keep s

def Session.channelWaiting (i : Nat) : Bool :=
  (s.channels[i]?).any Channel.waitingForChannel

def Session.terminationWaiting (i : Nat) : Bool :=
  (s.channels[i]?).any Channel.waitingForTermination

def Session.slotWaiting (j : Nat) : Bool :=
  (s.terminations[j]?).any TerminationSlot.waiting

/-- The body of the loop of `mrcp_client_control_media_answer_process`; there
is no outcome if it reads past the array, or if the control channel is NULL. -/
def controlMediaAnswer (i : Nat) : Option Session :=
  match s.channels[i]? with
  | none => none
  | some channel => if channel.controlChannel then some (s.await (.channelModify i)) else none

/-- `mrcp_client_control_media_answer_process`.  The loop runs to the number of
media in the answer. -/
def mrcpClientControlMediaAnswerProcess (answer : Descriptor) : Option Session :=
  let id := if s.id.isEmpty then (answer.controlMedia.head?.map ControlMedia.sessionId).getD s.id
    else s.id
  forLoopM 0 answer.controlMedia.length controlMediaAnswer { s with id := id }

/-- The remote media of the slot is that of the answer. -/
def remoteMediaSet (answer : Descriptor) (s : Session) (j : Nat) : Session :=
  s.modifySlot j (fun slot => { slot with
    descriptor := slot.descriptor.map (fun descriptor =>
      { descriptor with remoteMedia := answer.audioMedia[j]? }) })

/-- The body of the loop of `mrcp_client_av_media_answer_process`. -/
def audioMediaAnswer (answer : Descriptor) (s : Session) (j : Nat) : Option Session :=
  match s.terminations[j]? with
  | none => none
  | some slot =>
    let associated := slot.termination && (s.channels[slot.channel]?).any (fun channel =>
      channel.params.termination.isSome)
    some (((remoteMediaSet answer s j).awaitIf slot.termination (.slotModify j)).awaitIf
      associated .topology)

/-- `mrcp_client_av_media_answer_process` -/
def mrcpClientAvMediaAnswerProcess (answer : Descriptor) : Option Session :=
  forLoopM 0 answer.audioMedia.length (audioMediaAnswer answer) s

/-- `mrcp_client_resource_answer_process`, and the status that it leaves -/
def mrcpClientResourceAnswerProcess (offer answer : Descriptor) : Option Session :=
  if offer.resourceState then
    if answer.resourceState then mrcpClientAvMediaAnswerProcess s answer
    else some { s with status := .failure }
  else some s

/-- The media of an answer. -/
def mediaAnswerProcess (offer answer : Descriptor) : Option Session :=
  match profile.version with
  | .v1 => mrcpClientResourceAnswerProcess s offer answer
  | _ => do mrcpClientAvMediaAnswerProcess (← mrcpClientControlMediaAnswerProcess s answer) answer

/-- The answer is one of success. -/
def Descriptor.accepted (answer : Descriptor) : Bool :=
  200 ≤ answer.responseCode && answer.responseCode < 300

/-- The block of `mrcp_client_session_answer_process` for an answer of
success. -/
def answerAccept (offer answer : Descriptor) : Option Session := do
  let s := s.stateSet .processingAnswer
  let s ← mediaAnswerProcess profile (s.awaitIf s.context .topology) offer answer
  return s.awaitIf s.context .topology

/-- The end of `mrcp_client_session_answer_process`: the answer is stored. -/
def answerStore (answer : Descriptor) (s : Session) : Outcome :=
  let s := { s with answer := some answer }
  if s.subrequestCount = 0 then mrcpAppSigResponseRaise s true else .keep s

/-- `mrcp_client_session_answer_process` -/
def mrcpClientSessionAnswerProcess (descriptor : Option Descriptor) : Option Outcome :=
  match s.offer, descriptor with
  | none, _ => some (.keep s)
  | some _, none => some (mrcpAppSigResponseRaise { s with status := .failure } true)
  | some offer, some answer =>
    if answer.accepted then (answerAccept profile s offer answer).map (answerStore answer)
    else some (answerStore answer { s with status := .terminate })

/-- `mrcp_client_session_terminate_response_process` -/
def mrcpClientSessionTerminateResponseProcess : Outcome :=
  subrequestRemove s (mrcpAppSessionTerminateRaise · .success)

/-- `mrcp_client_session_terminate_event_process`, also `mrcp_client_on_disconnect` -/
def mrcpClientSessionTerminateEventProcess : Session :=
  if s.state = .terminating then s
  else
    let s := { s with disconnected := true }
    if s.activeRequest.isNone then s.note .terminateEvent else s

/-- `mrcp_client_session_control_response_process` -/
def mrcpClientSessionControlResponseProcess (message : MrcpMessage) : Outcome :=
  match mrcpClientChannelFindByName s message.channelId.resourceName with
  | none => .keep s
  | some i => mrcpAppControlMessageRaise s i message

/-- What has been discovered so far. -/
def discovered (answer : Option Descriptor) (descriptor : Descriptor) : Option Descriptor :=
  match profile.version with
  | .v1 =>
    if descriptor.resourceState then
      some ((answer.getD descriptor).controlMediaAdd ⟨0, descriptor.resourceName, [], 0, []⟩)
    else answer
  | _ => some descriptor

/-- `mrcp_client_session_discover_response_process` -/
def mrcpClientSessionDiscoverResponseProcess (descriptor : Option Descriptor) : Outcome :=
  match s.activeRequest, descriptor with
  | none, _ => .keep s
  | some _, none => mrcpAppSigResponseRaise { s with status := .failure } true
  | some request, some descriptor =>
    subrequestRemove { s with answer := discovered profile s.answer descriptor } (fun s =>
      ⟨{ s with activeRequest := none, answer := none }.note
        (.response ⟨request, .success, request.controlMessage, s.answer⟩), true⟩)

/-- The offer is sent when the last response has come. -/
def offerLast : Outcome :=
  .keep (mrcpClientSessionOfferSend agents s)

/-- What the last response of the media engine does in the two phases of an
offer. -/
def mediaLast : Outcome :=
  match s.state with
  | .generatingOffer => offerLast agents s
  | .processingAnswer => mrcpAppSigResponseRaise s true
  | _ => .keep s

/-- `mrcp_client_on_channel_add`; the status is not read. -/
def mrcpClientOnChannelAdd (i : Nat) : Outcome :=
  ifWaiting s (s.channelWaiting i) (.channelAdd i) (offerLast agents)

/-- `mrcp_client_on_channel_modify` -/
def mrcpClientOnChannelModify (i : Nat) (status : Bool) : Outcome :=
  ifWaiting s (s.channelWaiting i) (.channelModify i) (fun s =>
    mrcpAppSigResponseRaise { s with status := if status then s.status else .failure } true)

/-- `mrcp_client_on_channel_remove` -/
def mrcpClientOnChannelRemove (i : Nat) (status : Bool) : Outcome :=
  ifWaiting s (s.channelWaiting i) (.channelRemove i) (fun s =>
    mrcpAppSessionTerminateRaise s (if status then .success else .failure))

/-- `mpf_termination_t` of a message: the termination of a channel, or that of
a slot. -/
inductive TerminationRef where
  | channel (i : Nat)
  | rtp (j : Nat)
  deriving Repr, DecidableEq

/-- The local media of an RTP termination goes to the offer. -/
def slotMedia (j : Nat) (descriptor : RtpDescriptor) : Option Session :=
  match descriptor.localMedia with
  | none => some s
  | some media =>
    match s.offer with
    -- a NULL pointer
    | none => none
    | some offer => some (s.offerMedia j offer media)

/-- `mrcp_client_on_termination_add`; the status is not read. -/
def mrcpClientOnTerminationAdd (termination : TerminationRef) (descriptor : RtpDescriptor) :
    Option Outcome :=
  match termination with
  | .rtp j =>
    if s.slotWaiting j then do
      let s ← slotMedia (s.setWaiting false (.slotAdd j)) j descriptor
      return subrequestRemove s (offerLast agents)
    else some (.keep s)
  | .channel i =>
    some (ifWaiting s (s.terminationWaiting i) (.terminationAdd i) (offerLast agents))

/-- `mrcp_client_on_termination_modify`; the status is not read. -/
def mrcpClientOnTerminationModify (termination : TerminationRef) (descriptor : RtpDescriptor) :
    Outcome :=
  match termination with
  | .rtp j =>
    ifWaiting (s.modifySlot j (fun slot =>
        { slot with descriptor := if slot.waiting then some descriptor else slot.descriptor }))
      (s.slotWaiting j) (.slotModify j) (mediaLast agents)
  | .channel _ => .keep s

/-- `mrcp_client_on_termination_subtract`; the status is not read. -/
def mrcpClientOnTerminationSubtract : TerminationRef → Outcome
  | .rtp j =>
    ifWaiting s (s.slotWaiting j) (.slotSubtract j) (mrcpAppSessionTerminateRaise · .success)
  | .channel i =>
    ifWaiting s (s.terminationWaiting i) (.terminationSubtract i)
      (mrcpAppSigResponseRaise · true)

/-! ## The task of the client -/

/-- What arrives at the task of the client for a session.  The messages of the
media engine come in containers, whose messages are processed one after the
other.  The agent for MRCPv1 stores the id of the session itself. -/
inductive Input where
  | app (request : AppRequest)
  | sessionId (id : Bytes)
  | answer (descriptor : Option Descriptor)
  | terminateResponse
  | terminateEvent
  | controlResponse (message : MrcpMessage)
  | discoverResponse (descriptor : Option Descriptor)
  | channelAdd (channel : Nat) (status : Bool)
  | channelModify (channel : Nat) (status : Bool)
  | channelRemove (channel : Nat) (status : Bool)
  | messageReceive (channel : Nat) (message : MrcpMessage)
  | disconnect (channel : Nat)
  | terminationAdd (termination : TerminationRef) (status : Bool) (descriptor : RtpDescriptor)
  | terminationModify (termination : TerminationRef) (status : Bool) (descriptor : RtpDescriptor)
  | terminationSubtract (termination : TerminationRef) (status : Bool)
  /-- to a request for associations or the topology -/
  | topology (status : Bool)
  deriving Repr, DecidableEq

/-- The request to an agent or to the media engine that an input answers. -/
def Input.answers : Input → Option Awaited
  | .answer _ => some .answer
  | .terminateResponse => some .terminate
  | .discoverResponse _ => some .discover
  | .channelAdd i _ => some (.channelAdd i)
  | .channelModify i _ => some (.channelModify i)
  | .channelRemove i _ => some (.channelRemove i)
  | .terminationAdd (.channel i) _ _ => some (.terminationAdd i)
  | .terminationAdd (.rtp j) _ _ => some (.slotAdd j)
  | .terminationModify (.rtp j) _ _ => some (.slotModify j)
  | .terminationSubtract (.channel i) _ => some (.terminationSubtract i)
  | .terminationSubtract (.rtp j) _ => some (.slotSubtract j)
  | .topology _ => some .topology
  | _ => none

/-- The request of the session that an input answers; an MRCP response has the
id of its request. -/
def Input.reply (input : Input) : Option Awaited :=
  match input with
  | .controlResponse message | .messageReceive _ message =>
    s.awaited.find? (fun r =>
      match r with
      | .control request => request.requestId == message.requestId &&
          message.startLine.messageType == .response
      | _ => false)
  | input => input.answers

/-- The handlers that `mrcp_client_msg_process` and
`mrcp_client_mpf_message_process` call. -/
def handle : Input → Option Outcome
  | .app request => some (mrcpClientAppMessageProcess profile agents s request)
  | .sessionId id => some (.keep { s with id := id })
  | .answer descriptor => mrcpClientSessionAnswerProcess profile s descriptor
  | .terminateResponse => some (mrcpClientSessionTerminateResponseProcess s)
  | .terminateEvent | .disconnect _ => some (.keep (mrcpClientSessionTerminateEventProcess s))
  | .controlResponse message => some (mrcpClientSessionControlResponseProcess s message)
  | .discoverResponse descriptor =>
    some (mrcpClientSessionDiscoverResponseProcess profile s descriptor)
  | .channelAdd i _ => some (mrcpClientOnChannelAdd agents s i)
  | .channelModify i status => some (mrcpClientOnChannelModify s i status)
  | .channelRemove i status => some (mrcpClientOnChannelRemove s i status)
  | .messageReceive i message => some (mrcpAppControlMessageRaise s i message)
  | .terminationAdd termination _ descriptor =>
    mrcpClientOnTerminationAdd agents s termination descriptor
  | .terminationModify termination _ descriptor =>
    some (mrcpClientOnTerminationModify agents s termination descriptor)
  | .terminationSubtract termination _ => some (mrcpClientOnTerminationSubtract s termination)
  | .topology _ => some (subrequestRemove s (mediaLast agents))

end

/-- The request is not awaited any more. -/
def Session.replied (s : Session) : Option Awaited → Session
  | none => s
  | some r => { s with awaited := s.awaited.erase r }

/-- One message to the task; there is no outcome if it makes the session read
past an array or follow a NULL pointer. -/
def step (profile : Profile) (s : Session) (input : Agents × Input) : Option Session :=
  (handle profile input.1 (s.replied (input.2.reply s)) input.2).map
    (Outcome.finish profile input.1)

/-! ## A client with a recognizer -/

def clientProfile (version : MrcpVersion) : Profile where
  version := version
  mpfFactory := true
  resourceFactory := mrcpResourcesLoad

/-- Agents that take every request. -/
def willingAgents : Agents where
  signalingAgent := true
  connectionAgent := true
  mediaEngine := true
  createSession := true
  offer := true
  terminate := true
  control := true
  discover := fun _ _ => true
  discoverAll := fun _ => true

/-- Media to receive from the client. -/
def sendMedia : RtpMedia := ⟨0, 0, ⟨true, false⟩, true⟩

/-- A recognizer whose media is not processed by the client. -/
def bypassRecognizer : ChannelParams := ⟨0, .recognizer, none, some ⟨some sendMedia, none⟩⟩

/-- A recognizer whose media comes from a source of the client. -/
def recognizer : ChannelParams := ⟨0, .recognizer, some ⟨some ⟨false, true⟩⟩, none⟩

/-- A server accepts a recognizer. -/
def recognizerAnswer : Descriptor where
  responseCode := 200
  resourceName := MrcpResource.recognizer.name
  resourceState := true
  controlMedia := [⟨0, MrcpResource.recognizer.name, bytesOf "1", 1544, [1]⟩]
  audioMedia := [sendMedia]

/-- The recognizer is added: the channel and the terminations, the answer, and
what follows from it. -/
def recognizerSetup : List (Agents × Input) :=
  [.app (.channelAdd recognizer), .channelAdd 0 true,
    .terminationAdd (.channel 0) true ⟨none, none⟩,
    .terminationAdd (.rtp 0) true ⟨some sendMedia, none⟩, .answer (some recognizerAnswer),
    .topology true, .channelModify 0 true,
    .terminationModify (.rtp 0) true ⟨none, some sendMedia⟩, .topology true, .topology true].map
      (fun input => (willingAgents, input))

end UniMrcp.Client
