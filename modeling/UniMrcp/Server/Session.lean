import UniMrcp.Lib.Loops
import UniMrcp.Server.Machine

/-!
# The server session

A model of `mrcp-server/src/mrcp_server_session.c`.  A session takes signaling
messages one at a time: an offer, a message for a resource, and the request to
terminate.  The others wait in `requestQueue` until `activeRequest` is done.

An offer is done in two phases and a termination in two.  In each the session
sends requests to the connection agent, the engines and the media engine,
counts them in `subrequestCount`, and goes on when the last response has
arrived.  All responses come as messages to the task of the server, never
inside the call that sent the request.

Three fields are not in the source; they are the history that properties of a
session speak about:

* `awaited`, the responses that have been requested and have not arrived;
* `engineRequests`, the messages that engines have accepted and not answered;
* `log`, the offers and terminations as they arrive, and their answers.

The media descriptors of the offer and the answer are reduced to what decides
on requests: codecs, addresses and directions are left out, and so is the
video media, which the session only counts.
-/

namespace UniMrcp.Server

open UniMrcp.Lib UniMrcp.Apt UniMrcp.Mrcp UniMrcp.Engine

/-! ## Descriptors -/

/-- `mrcp_session_status_e` -/
inductive SessionStatus where
  | ok
  | noSuchResource
  | unacceptableResource
  | unavailableResource
  | error
  deriving Repr, DecidableEq

/-- `mrcp_control_descriptor_t`; `cmids` is `cmid_arr`. -/
structure ControlMedia where
  resourceName : Bytes
  port : Nat
  cmids : Option (List Nat)
  deriving Repr, DecidableEq

/-- `mpf_rtp_media_descriptor_t` -/
structure AudioMedia where
  mid : Nat
  deriving Repr, DecidableEq

/-- `mrcp_session_descriptor_t` of an offer.  The name and the state of the
resource are those of MRCPv1; an empty name is a NULL one. -/
structure Offer where
  resourceName : Bytes
  resourceState : Bool
  status : SessionStatus
  controlMedia : List (Option ControlMedia)
  audioMedia : List (Option AudioMedia)
  deriving Repr, DecidableEq

/-- `mrcp_session_descriptor_t` of an answer: the ports of the control media,
and the audio media that have been set. -/
structure Answer where
  resourceState : Bool
  status : SessionStatus
  controlMedia : List (Option Nat)
  audioMedia : List Bool
  deriving Repr, DecidableEq

/-- `mrcp_session_answer_create` -/
def mrcpSessionAnswerCreate (offer : Offer) : Answer where
  resourceState := offer.resourceState
  status := offer.status
  controlMedia := offer.controlMedia.map (fun _ => none)
  audioMedia := offer.audioMedia.map (fun _ => false)

/-- `mrcp_session_control_media_get` -/
def Offer.controlMediaGet (offer : Offer) (id : Nat) : Option ControlMedia :=
  (offer.controlMedia[id]?).join

/-- `mrcp_session_audio_media_get` -/
def Offer.audioMediaGet (offer : Offer) (id : Nat) : Option AudioMedia :=
  (offer.audioMedia[id]?).join

/-! ## The session -/

/-- `mrcp_engine_channel_t`: whether it has a termination, and `is_open`. -/
structure EngineChannel where
  termination : Bool
  isOpen : Bool
  deriving Repr, DecidableEq

/-- `mrcp_channel_t`.  A channel of a session always has its resource. -/
structure Channel where
  id : Nat
  resource : MrcpResource
  controlChannel : Bool
  engineChannel : Option EngineChannel
  stateMachine : Option Machine
  cmids : Option (List Nat)
  waitingForChannel : Bool
  waitingForTermination : Bool
  deriving DecidableEq

/-- `mrcp_termination_slot_t`; `channels` are positions in the array of
channels. -/
structure TerminationSlot where
  id : Nat
  mid : Nat
  channels : List Nat
  waiting : Bool
  deriving Repr, DecidableEq

/-- `mrcp_signaling_message_t` -/
inductive SignalingMessage where
  | offer (descriptor : Offer)
  /-- the channel is the position of one, or NULL -/
  | control (channel : Option Nat) (message : MrcpMessage)
  | terminate
  deriving DecidableEq

/-- `mrcp_server_session_state_e` -/
inductive SessionState where
  | none
  | generatingAnswer
  | initializing
  | deactivating
  | terminating
  deriving Repr, DecidableEq

/-- The responses a session asks for, with the position of the channel or of
the termination slot. -/
inductive Awaited where
  /-- of the connection agent, to an add or a modify request -/
  | channelModify (channel : Nat)
  /-- of the connection agent, to a remove request -/
  | channelRemove (channel : Nat)
  /-- of an engine, to `open` -/
  | engineOpen (channel : Nat)
  /-- of an engine, to `close` -/
  | engineClose (channel : Nat)
  /-- of a state machine that is being deactivated -/
  | deactivation (channel : Nat)
  /-- of the media engine, for the termination of an engine channel -/
  | terminationAdd (channel : Nat)
  | terminationSubtract (channel : Nat)
  /-- of the media engine, for an RTP termination -/
  | slotModify (slot : Nat)
  | slotSubtract (slot : Nat)
  /-- of the media engine, for associations and the topology -/
  | topology
  deriving Repr, DecidableEq

/-- What is noted of offers and terminations; an answer is noted with the
responses that were awaited when it was sent. -/
inductive Note where
  | offer
  | answer (awaited : List Awaited)
  | terminate
  | terminated (awaited : List Awaited)
  deriving Repr, DecidableEq

/-- What is noted of a message when it arrives. -/
def SignalingMessage.notes : SignalingMessage → List Note
  | .offer _ => [.offer]
  | .control _ _ => []
  | .terminate => [.terminate]

/-- `mrcp_server_session_t` -/
structure Session where
  context : Bool
  channels : List Channel
  terminations : List TerminationSlot
  activeRequest : Option SignalingMessage
  requestQueue : List SignalingMessage
  offer : Option Offer
  answer : Option Answer
  state : SessionState
  subrequestCount : Nat
  awaited : List Awaited
  engineRequests : List (Nat × MrcpMessage)
  log : List Note
  deriving DecidableEq

/-- `mrcp_server_session_create` -/
def mrcpServerSessionCreate : Session :=
  ⟨false, [], [], none, [], none, none, .none, 0, [], [], []⟩

/-- `mrcp_profile_t`: the version, the resources, and what the engine of a
resource creates for a channel. -/
structure Profile where
  version : MrcpVersion
  resourceFactory : ResourceFactory
  /-- no engine, or its state machine and its engine channel -/
  engine : MrcpResource → Option (Option Machine × Option EngineChannel)

/-- What the engines return when the session calls them, by the position of
the channel, and what `apr_palloc` leaves in the memory it returns. -/
structure Plugin where
  openStatus : Nat → Bool
  closeStatus : Nat → Bool
  processStatus : Nat → Bool
  memory : Nat → UInt8

namespace Session

def modifyChannel (s : Session) (i : Nat) (f : Channel → Channel) : Session :=
  { s with channels := s.channels.modify i f }

def modifySlot (s : Session) (j : Nat) (f : TerminationSlot → TerminationSlot) : Session :=
  { s with terminations := s.terminations.modify j f }

def modifyAnswer (s : Session) (f : Answer → Answer) : Session :=
  { s with answer := s.answer.map f }

/-- The waiting flag that belongs to a response. -/
def setWaiting (s : Session) : Awaited → Session
  | .channelModify i | .channelRemove i =>
    s.modifyChannel i (fun channel => { channel with waitingForChannel := true })
  | .terminationAdd i | .terminationSubtract i =>
    s.modifyChannel i (fun channel => { channel with waitingForTermination := true })
  | .slotModify j | .slotSubtract j =>
    s.modifySlot j (fun slot => { slot with waiting := true })
  | .engineOpen _ | .engineClose _ | .deactivation _ | .topology => s

/-- A request has been sent: the flag is set, and
`mrcp_server_session_subrequest_add` counts it. -/
def await (s : Session) (r : Awaited) : Session :=
  let s := s.setWaiting r
  { s with awaited := s.awaited ++ [r], subrequestCount := s.subrequestCount + 1 }

/-- `mrcp_server_session_state_set` -/
def stateSet (s : Session) (state : SessionState) : Session :=
  { s with subrequestCount := 0, state := state }

end Session

/-! ## Channels -/

section

variable (profile : Profile) (plugin : Plugin) (s : Session)

/-- `mrcp_server_channel_create`: the session, with the status of the answer,
and the channel if the resource is known. -/
def mrcpServerChannelCreate (name : Bytes) (id : Nat) (cmids : Option (List Nat)) :
    Session × Option Channel :=
  match mrcpResourceFind profile.resourceFactory name with
  | none => (s.modifyAnswer (fun answer => { answer with status := .noSuchResource }), none)
  | some resource =>
    let channel : Channel :=
      { id := id
        resource := resource
        controlChannel := profile.version == .v2
        engineChannel := ((profile.engine resource).map Prod.snd).join
        stateMachine := ((profile.engine resource).map Prod.fst).join
        cmids := cmids
        waitingForChannel := false
        waitingForTermination := false }
    if channel.engineChannel.isSome then (s, some channel)
    else
      (s.modifyAnswer (fun answer => { answer with status := .unacceptableResource }),
        some channel)

/-- `mrcp_server_channel_find`: the position of the channel. -/
def mrcpServerChannelFind (name : Bytes) : Option Nat :=
  s.channels.findIdx? (fun channel => aptStringCompare channel.resource.name name)

/-- `mrcp_engine_channel_virtual_open`, and the count -/
def engineChannelOpen (i : Nat) (engine : EngineChannel) : Session :=
  if engine.isOpen then s
  else
    let s := s.modifyChannel i (fun channel =>
      { channel with engineChannel := some { engine with isOpen := plugin.openStatus i } })
    if plugin.openStatus i then s.await (.engineOpen i) else s

/-- `mrcp_engine_channel_virtual_close`, and the count -/
def engineChannelClose (i : Nat) (engine : EngineChannel) : Session :=
  if engine.isOpen then
    let s := s.modifyChannel i (fun channel =>
      { channel with engineChannel := some { engine with isOpen := false } })
    if plugin.closeStatus i then s.await (.engineClose i) else s
  else s

/-- A request goes to the engine of a channel, if there is one that takes
it. -/
def engineRequest (i : Nat) (message : MrcpMessage) : Session :=
  if ((s.channels[i]?).bind Channel.engineChannel).isSome && plugin.processStatus i then
    { s with engineRequests := s.engineRequests ++ [(i, message)] }
  else s

/-! ## The offer -/

/-- The block "port 0" of the answer to a control media without a control
channel. -/
def controlMediaDisable (id : Nat) : Session :=
  s.modifyAnswer (fun answer => { answer with controlMedia := answer.controlMedia.set id (some 0) })

/-- The end of the loops over control media: the termination of the engine
channel goes to the media context. -/
def terminationAdd (i : Nat) (channel : Channel) : Session :=
  if channel.engineChannel.any EngineChannel.termination then s.await (.terminationAdd i) else s

/-- The first loop of `mrcp_server_control_media_offer_process`: an existing
channel. -/
def controlMediaModify (offer : Offer) (s : Session) (i : Nat) : Session :=
  match s.channels[i]? with
  | none => s
  | some channel =>
    let s := s.modifyChannel i (fun channel => { channel with waitingForChannel := false })
    match offer.controlMediaGet i with
    | none => s
    | some _ =>
      if channel.controlChannel then s.await (.channelModify i)
      else controlMediaDisable s channel.id

/-- The second loop: a new channel. -/
def controlMediaAdd (offer : Offer) (s : Session) (i : Nat) : Session :=
  match offer.controlMediaGet i with
  | none => s
  | some media =>
    match mrcpServerChannelCreate profile s media.resourceName i media.cmids with
    | (s, none) => s
    | (s, some channel) =>
      let position := s.channels.length
      let s := { s with channels := s.channels ++ [channel] }
      let s := if channel.controlChannel then s.await (.channelModify position)
        else controlMediaDisable s channel.id
      terminationAdd s position channel

/-- `mrcp_server_control_media_offer_process` -/
def mrcpServerControlMediaOfferProcess (offer : Offer) : Session :=
  let count := min s.channels.length offer.controlMedia.length
  let s := forLoop 0 count (controlMediaModify offer) s
  forLoop count offer.controlMedia.length (controlMediaAdd profile offer) s

/-- `mrcp_server_resource_offer_process` -/
def mrcpServerResourceOfferProcess (offer : Offer) : Bool × Session :=
  if offer.resourceState then
    match mrcpServerChannelFind s offer.resourceName with
    | some _ => (true, s)
    | none =>
      let position := s.channels.length
      match mrcpServerChannelCreate profile s offer.resourceName position none with
      | (s, none) => (false, s)
      | (s, some channel) =>
        let s := { s with channels := s.channels ++ [channel] }
        (true, terminationAdd s position channel)
  else (true, s)

/-- The channels that `mrcp_server_associations_build` puts into a slot. -/
def associatedChannels (mid : Nat) : List Nat :=
  (List.range s.channels.length).filter (fun i =>
    match s.channels[i]? with
    | none => false
    | some channel =>
      s.terminations.length == 1 ||
        match channel.cmids with
        | none => true
        | some cmids => cmids.contains mid)

/-- `mrcp_server_associations_build`; the slot is left as it is when the offer
has no media for it. -/
def mrcpServerAssociationsBuild (offer : Offer) (j : Nat) : Option Session :=
  match s.terminations[j]? with
  | none => none
  | some slot =>
    match offer.audioMediaGet slot.id with
    | none => none
    | some media =>
      some (s.modifySlot j (fun slot =>
        { slot with mid := media.mid, channels := associatedChannels s media.mid }))

/-- `mrcp_server_associations_set` -/
def mrcpServerAssociationsSet (j : Nat) : Session :=
  match s.terminations[j]? with
  | none => s
  | some slot =>
    slot.channels.foldl (fun s i =>
      if ((s.channels[i]?).bind Channel.engineChannel).isSome then s.await .topology else s) s

/-- The body of the loops over audio media. -/
def audioMediaOffer (offer : Offer) (s : Session) (j : Nat) : Session :=
  match mrcpServerAssociationsBuild s offer j with
  | none => s
  | some s => mrcpServerAssociationsSet (s.await (.slotModify j)) j

/-- The second loop of `mrcp_server_av_media_offer_process`: a new slot. -/
def audioMediaAdd (offer : Offer) (s : Session) (j : Nat) : Session :=
  let position := s.terminations.length
  let s := { s with terminations := s.terminations ++ [⟨j, 0, [], false⟩] }
  audioMediaOffer offer s position

/-- `mrcp_server_av_media_offer_process` -/
def mrcpServerAvMediaOfferProcess (offer : Offer) : Session :=
  if offer.audioMedia.isEmpty then s
  else
    let count := min s.terminations.length offer.audioMedia.length
    let s := forLoop 0 count (audioMediaOffer offer) s
    forLoop count offer.audioMedia.length (audioMediaAdd offer) s

/-- What a function leaves to its caller: the session; whether
`active_request` is done, so that the next request of the queue is taken; and
the pending request of a channel that is dispatched after that. -/
structure Outcome where
  session : Session
  released : Bool
  pending : Option (Nat × MrcpMessage)
  deriving DecidableEq

def Outcome.keep : Outcome := ⟨s, false, none⟩

/-- `mrcp_server_session_answer_send` -/
def mrcpServerSessionAnswerSend : Outcome :=
  ⟨{ s with log := s.log ++ [.answer s.awaited], offer := none, answer := none }, true, none⟩

/-- `mrcp_server_session_offer_process` -/
def mrcpServerSessionOfferProcess (offer : Offer) : Outcome :=
  let s := { s with
    context := true, offer := some offer, answer := some (mrcpSessionAnswerCreate offer) }
  let s := (s.stateSet .generatingAnswer).await .topology
  let s :=
    match profile.version with
    | .v1 =>
      match mrcpServerResourceOfferProcess profile s offer with
      | (true, s) => mrcpServerAvMediaOfferProcess s offer
      | (false, s) => s.modifyAnswer (fun answer => { answer with resourceState := false })
    | _ => mrcpServerAvMediaOfferProcess (mrcpServerControlMediaOfferProcess profile s offer) offer
  let s := s.await .topology
  if s.subrequestCount = 0 then mrcpServerSessionAnswerSend s else .keep s

/-- The loop of `mrcp_server_engine_channels_update` for MRCPv2. -/
def engineChannelUpdate (offer : Offer) (s : Session) (i : Nat) : Session :=
  match (s.channels[i]?).bind Channel.engineChannel, offer.controlMediaGet i with
  | some engine, some media =>
    if media.port ≠ 0 then engineChannelOpen plugin s i engine
    else engineChannelClose plugin s i engine
  | _, _ => s

/-- `mrcp_server_engine_channels_update` -/
def mrcpServerEngineChannelsUpdate : Outcome :=
  match s.offer with
  | none => .keep s
  | some offer =>
    let s := s.stateSet .initializing
    let s :=
      match profile.version with
      | .v1 =>
        match mrcpServerChannelFind s offer.resourceName with
        | none => s
        | some i =>
          match (s.channels[i]?).bind Channel.engineChannel with
          | none => s
          | some engine => engineChannelOpen plugin s i engine
      | _ => forLoop 0 s.channels.length (engineChannelUpdate plugin offer) s
    if s.subrequestCount = 0 then mrcpServerSessionAnswerSend s else .keep s

/-! ## The termination -/

/-- `mrcp_server_session_terminate_send` -/
def mrcpServerSessionTerminateSend : Session :=
  { s with
    channels := s.channels.map (fun channel =>
      { channel with controlChannel := false, engineChannel := none })
    log := s.log ++ [.terminated s.awaited] }

/-- The loop over channels of `mrcp_server_session_terminate_process`. -/
def channelTerminate (i : Nat) : Session :=
  match s.channels[i]? with
  | none => s
  | some channel =>
    let s := if channel.controlChannel then s.await (.channelRemove i) else s
    match channel.engineChannel with
    | none => s
    | some engine =>
      let s := if engine.termination then s.await (.terminationSubtract i) else s
      engineChannelClose plugin s i engine

/-- `mrcp_server_session_terminate_process` -/
def mrcpServerSessionTerminateProcess : Session :=
  let s := s.stateSet .terminating
  let s := if s.context then s.await .topology else s
  let s := forLoop 0 s.channels.length (channelTerminate plugin) s
  let s := forLoop 0 s.terminations.length (fun s j => s.await (.slotSubtract j)) s
  if s.subrequestCount = 0 then mrcpServerSessionTerminateSend s else s

/-- `state_machine_on_message_dispatch`; the flag says that `active_request`
is done. -/
def stateMachineOnMessageDispatch (i : Nat) (message : MrcpMessage) : Session × Bool :=
  match message.startLine.messageType with
  | .request => (engineRequest plugin s i message, false)
  | .response => (s, true)
  | _ => (s, false)

/-- The loop of `mrcp_server_session_deactivate`. -/
def channelDeactivate (i : Nat) : Session :=
  match (s.channels[i]?).bind Channel.stateMachine with
  | none => s
  | some machine =>
    let (machine, callbacks, status) := machine.deactivate
    let s := s.modifyChannel i (fun channel => { channel with stateMachine := some machine })
    let s := callbacks.foldl (fun s callback =>
      match callback with
      | .onDispatch message => (stateMachineOnMessageDispatch plugin s i message).1
      | .onDeactivate => s) s
    if status then s.await (.deactivation i) else s

/-- `mrcp_server_session_deactivate` -/
def mrcpServerSessionDeactivate : Session :=
  let s := s.stateSet .deactivating
  let s := forLoop 0 s.channels.length (channelDeactivate plugin) s
  if s.subrequestCount = 0 then mrcpServerSessionTerminateProcess plugin s else s

/-- `mrcp_server_session_subrequest_remove` -/
def mrcpServerSessionSubrequestRemove : Outcome :=
  if s.subrequestCount = 0 then .keep s
  else
    let s := { s with subrequestCount := s.subrequestCount - 1 }
    if s.subrequestCount = 0 then
      match s.state with
      | .generatingAnswer => mrcpServerEngineChannelsUpdate profile plugin s
      | .initializing => mrcpServerSessionAnswerSend s
      | .deactivating => .keep (mrcpServerSessionTerminateProcess plugin s)
      | .terminating => .keep (mrcpServerSessionTerminateSend s)
      | .none => .keep s
    else .keep s

/-! ## Messages for resources -/

/-- One call of a state machine. -/
def callbackRun (i : Nat) (o : Outcome) (callback : Callback) : Outcome :=
  match callback with
  | .onDispatch message =>
    let (s, released) := stateMachineOnMessageDispatch plugin o.session i message
    ⟨s, o.released || released, o.pending⟩
  | .onDeactivate =>
    -- `state_machine_on_deactivate`, which is the response to the deactivation
    let s := { o.session with awaited := o.session.awaited.erase (.deactivation i) }
    let o' := mrcpServerSessionSubrequestRemove profile plugin s
    ⟨o'.session, o.released || o'.released, o.pending⟩

/-- `mrcp_state_machine_update` with the calls it makes. -/
def stateMachineUpdate (i : Nat) (machine : Machine) (message : MrcpMessage) : Checked Outcome := do
  let reaction ← machine.update plugin.memory message
  let s := s.modifyChannel i (fun channel =>
    { channel with stateMachine := some reaction.machine })
  return reaction.callbacks.foldl (callbackRun profile plugin i)
    ⟨s, false, reaction.pending.map (fun pending => (i, pending))⟩

/-- `mrcp_server_on_message_receive` -/
def mrcpServerOnMessageReceive (channel : Option Nat) (message : MrcpMessage) : Checked Outcome :=
  match channel.or (mrcpServerChannelFind s message.channelId.resourceName) with
  | none => .ok (.keep s)
  | some i =>
    match (s.channels[i]?).bind Channel.stateMachine with
    | none => .ok (.keep s)
    | some machine => stateMachineUpdate profile plugin s i machine message

/-- `mrcp_server_signaling_message_dispatch` -/
def mrcpServerSignalingMessageDispatch : SignalingMessage → Checked Outcome
  | .offer descriptor => .ok (mrcpServerSessionOfferProcess profile s descriptor)
  | .control channel message => mrcpServerOnMessageReceive profile plugin s channel message
  | .terminate => .ok (.keep (mrcpServerSessionDeactivate plugin s))

/-- What a STOP response handler does when its call has returned. -/
def dispatchPending : Option (Nat × MrcpMessage) → Session
  | none => s
  | some (i, pending) =>
    let s := s.modifyChannel i (fun channel =>
      { channel with stateMachine :=
          channel.stateMachine.map (fun machine => machine.dispatchPending pending) })
    engineRequest plugin s i pending

end

/-- The end of a request: `active_request` is the next of the queue, and it is
dispatched. -/
def nextRequest (profile : Profile) (plugin : Plugin) :
    List SignalingMessage → Session → Checked Session
  | [], s => .ok { s with activeRequest := none, requestQueue := [] }
  | message :: queue, s => do
    let outcome ← mrcpServerSignalingMessageDispatch profile plugin
      { s with activeRequest := some message, requestQueue := queue } message
    let s ← if outcome.released then nextRequest profile plugin queue outcome.session
      else .ok outcome.session
    return dispatchPending plugin s outcome.pending

/-- A request that has been taken from the queue. -/
theorem nextRequest_cons {profile : Profile} {plugin : Plugin} {message : SignalingMessage}
    {queue : List SignalingMessage} {s s' : Session}
    (h : nextRequest profile plugin (message :: queue) s = .ok s') :
    ∃ outcome s1, mrcpServerSignalingMessageDispatch profile plugin
        { s with activeRequest := some message, requestQueue := queue } message = .ok outcome ∧
      (outcome.released = false ∧ s1 = outcome.session ∨
        outcome.released = true ∧ nextRequest profile plugin queue outcome.session = .ok s1) ∧
      s' = dispatchPending plugin s1 outcome.pending := by
  obtain ⟨outcome, hdispatch, h⟩ := Checked.bind_eq_ok.mp h
  refine ⟨outcome, ?_⟩
  cases hreleased : outcome.released with
  | false =>
    simp only [hreleased] at h
    exact ⟨outcome.session, hdispatch, .inl ⟨rfl, rfl⟩, (Except.ok.inj h).symm⟩
  | true =>
    simp only [hreleased] at h
    obtain ⟨s1, hnext, h⟩ := Checked.bind_eq_ok.mp h
    exact ⟨s1, hdispatch, .inr ⟨rfl, hnext⟩, (Except.ok.inj h).symm⟩

/-- The rest of a call that may have ended the active request. -/
def Outcome.finish (profile : Profile) (plugin : Plugin) (o : Outcome) : Checked Session := do
  let s ← if o.released then nextRequest profile plugin o.session.requestQueue o.session
    else .ok o.session
  return dispatchPending plugin s o.pending

theorem Outcome.finish_cases {profile : Profile} {plugin : Plugin} {o : Outcome} {s' : Session}
    (h : o.finish profile plugin = .ok s') :
    ∃ s1, (o.released = false ∧ s1 = o.session ∨
        o.released = true ∧
          nextRequest profile plugin o.session.requestQueue o.session = .ok s1) ∧
      s' = dispatchPending plugin s1 o.pending := by
  unfold Outcome.finish at h
  cases hreleased : o.released with
  | false =>
    simp only [hreleased] at h
    exact ⟨o.session, .inl ⟨rfl, rfl⟩, (Except.ok.inj h).symm⟩
  | true =>
    simp only [hreleased] at h
    obtain ⟨s1, hnext, h⟩ := Checked.bind_eq_ok.mp h
    exact ⟨s1, .inr ⟨rfl, hnext⟩, (Except.ok.inj h).symm⟩

section

variable (profile : Profile) (plugin : Plugin) (s : Session)

/-- `mrcp_server_signaling_message_process` -/
def mrcpServerSignalingMessageProcess (message : SignalingMessage) : Checked Session :=
  let s := { s with log := s.log ++ message.notes }
  if s.activeRequest.isSome then .ok { s with requestQueue := s.requestQueue ++ [message] }
  else do
    let outcome ← mrcpServerSignalingMessageDispatch profile plugin
      { s with activeRequest := some message } message
    outcome.finish profile plugin

/-! ## Responses -/

/-- `mrcp_server_on_channel_modify` -/
def mrcpServerOnChannelModify (i : Nat) (port : Nat) : Outcome :=
  match s.channels[i]? with
  | none => .keep s
  | some channel =>
    if channel.waitingForChannel then
      let s := s.modifyChannel i (fun channel => { channel with waitingForChannel := false })
      let s := s.modifyAnswer (fun answer =>
        { answer with controlMedia := answer.controlMedia.set channel.id (some port) })
      mrcpServerSessionSubrequestRemove profile plugin s
    else .keep s

/-- `mrcp_server_on_channel_remove` -/
def mrcpServerOnChannelRemove (i : Nat) : Outcome :=
  match s.channels[i]? with
  | none => .keep s
  | some channel =>
    if channel.waitingForChannel then
      mrcpServerSessionSubrequestRemove profile plugin
        (s.modifyChannel i (fun channel => { channel with waitingForChannel := false }))
    else .keep s

/-- `mrcp_server_on_engine_channel_open` -/
def mrcpServerOnEngineChannelOpen (status : Bool) : Outcome :=
  let s := if status then s
    else s.modifyAnswer (fun answer => { answer with status := .unavailableResource })
  mrcpServerSessionSubrequestRemove profile plugin s

/-- The engine channel branch of `mrcp_server_on_termination_modify` and
`mrcp_server_on_termination_subtract`. -/
def onEngineTermination (i : Nat) : Outcome :=
  match s.channels[i]? with
  | none => .keep s
  | some channel =>
    if channel.waitingForTermination then
      mrcpServerSessionSubrequestRemove profile plugin
        (s.modifyChannel i (fun channel => { channel with waitingForTermination := false }))
    else .keep s

/-- The RTP termination branch of `mrcp_server_on_termination_modify`; `local`
says that the descriptor of the response has local media. -/
def onSlotModify (j : Nat) (hasLocal : Bool) : Outcome :=
  match s.terminations[j]? with
  | none => .keep s
  | some slot =>
    if slot.waiting then
      let s := s.modifySlot j (fun slot => { slot with waiting := false })
      let s := if hasLocal then
          s.modifyAnswer (fun answer =>
            { answer with audioMedia := answer.audioMedia.set slot.id true })
        else s
      mrcpServerSessionSubrequestRemove profile plugin s
    else .keep s

/-- The RTP termination branch of `mrcp_server_on_termination_subtract`. -/
def onSlotSubtract (j : Nat) : Outcome :=
  match s.terminations[j]? with
  | none => .keep s
  | some slot =>
    if slot.waiting then
      mrcpServerSessionSubrequestRemove profile plugin
        (s.modifySlot j (fun slot => { slot with waiting := false }))
    else .keep s

/-- What a response carries: the status of an engine, the port of a control
channel, and whether an RTP termination has local media. -/
structure ResponseData where
  status : Bool
  port : Nat
  hasLocal : Bool
  deriving Repr, DecidableEq

/-- The handlers of the responses that `mrcp_server_msg_process` and
`mrcp_server_mpf_message_process` call.  The response to a deactivation is the
call of the state machine. -/
def responseProcess (data : ResponseData) : Awaited → Outcome
  | .channelModify i => mrcpServerOnChannelModify profile plugin s i data.port
  | .channelRemove i => mrcpServerOnChannelRemove profile plugin s i
  | .engineOpen _ => mrcpServerOnEngineChannelOpen profile plugin s data.status
  | .engineClose _ => mrcpServerSessionSubrequestRemove profile plugin s
  | .terminationAdd i | .terminationSubtract i => onEngineTermination profile plugin s i
  | .slotModify j => onSlotModify profile plugin s j data.hasLocal
  | .slotSubtract j => onSlotSubtract profile plugin s j
  | .topology => mrcpServerSessionSubrequestRemove profile plugin s
  | .deactivation _ => .keep s

/-- A response of an engine answers the request with its id. -/
def engineAnswer (i : Nat) (message : MrcpMessage) : Session :=
  if message.startLine.messageType = .response then
    { s with engineRequests := s.engineRequests.eraseP (fun request =>
        request.1 == i && request.2.requestId == message.requestId) }
  else s

/-- `mrcp_server_on_engine_channel_message` -/
def mrcpServerOnEngineChannelMessage (i : Nat) (message : MrcpMessage) : Checked Outcome :=
  match (s.channels[i]?).bind Channel.stateMachine with
  | none => .ok (.keep s)
  | some machine => stateMachineUpdate profile plugin s i machine message

end

/-- What arrives at the task of the server for a session. -/
inductive Input where
  | signal (message : SignalingMessage)
  | response (awaited : Awaited) (data : ResponseData)
  | engineMessage (channel : Nat) (message : MrcpMessage)
  deriving DecidableEq

/-- One message to the task; there is no outcome if it makes the session follow
a NULL pointer, or if it is a response that nobody has asked for. -/
def step (profile : Profile) (s : Session) (input : Plugin × Input) : Option Session :=
  let plugin := input.1
  match input.2 with
  | .signal message => (mrcpServerSignalingMessageProcess profile plugin s message).toOption
  | .response (.deactivation _) _ => none
  | .response awaited data =>
    if awaited ∈ s.awaited then
      ((responseProcess profile plugin { s with awaited := s.awaited.erase awaited } data
        awaited).finish profile plugin).toOption
    else none
  | .engineMessage i message =>
    (do
      let outcome ← mrcpServerOnEngineChannelMessage profile plugin (engineAnswer s i message) i
        message
      outcome.finish profile plugin).toOption

/-! ## A server with a recognizer -/

/-- The profile of a server whose resources are recognizers. -/
def recognizerProfile : Profile where
  version := .v2
  resourceFactory := mrcpResourcesLoad
  engine := fun _ => some (some (.recognizer (mrcpRecogStateMachineCreate .v2)), some ⟨true, false⟩)

/-- Engines that take every request. -/
def willingPlugin : Plugin where
  openStatus := fun _ => true
  closeStatus := fun _ => true
  processStatus := fun _ => true
  memory := fun _ => 0

/-- An offer of one recognizer and one audio stream. -/
def recognizerOffer : Offer where
  resourceName := []
  resourceState := false
  status := .ok
  controlMedia := [some ⟨MrcpResource.recognizer.name, 1544, none⟩]
  audioMedia := [some ⟨1⟩]

end UniMrcp.Server
