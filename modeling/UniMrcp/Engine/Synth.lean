import UniMrcp.Engine.StateMachine

/-!
# The synthesizer state machine

A model of `mrcp-engine/src/mrcp_synth_state_machine.c`.
-/

namespace UniMrcp.Engine

open UniMrcp.Lib UniMrcp.Mrcp

/-- `mrcp_synth_state_e` -/
inductive SynthState where
  | idle
  | speaking
  | paused
  deriving Repr, DecidableEq

/-- `mrcp_synth_state_machine_t` -/
abbrev SynthStateMachine := StateMachine SynthState

/-- `mrcp_synthesizer_method_id` -/
inductive SynthMethod where
  | setParams
  | getParams
  | speak
  | stop
  | pause
  | resume
  | bargeInOccurred
  | control
  | defineLexicon
  deriving Repr, DecidableEq

/-- The entry of the method arrays, if there is one. -/
def synthMethod : Nat → Option SynthMethod
  | 0 => some .setParams
  | 1 => some .getParams
  | 2 => some .speak
  | 3 => some .stop
  | 4 => some .pause
  | 5 => some .resume
  | 6 => some .bargeInOccurred
  | 7 => some .control
  | 8 => some .defineLexicon
  | _ => none

/-- `SYNTHESIZER_SPEAK` -/
def synthesizerSpeak : Nat := 2

/-- `SYNTHESIZER_STOP` -/
def synthesizerStop : Nat := 3

/-- `SYNTHESIZER_PAUSE` -/
def synthesizerPause : Nat := 4

/-- `SYNTHESIZER_RESUME` -/
def synthesizerResume : Nat := 5

/-- `SYNTHESIZER_BARGE_IN_OCCURRED` -/
def synthesizerBargeInOccurred : Nat := 6

/-- `SYNTHESIZER_CONTROL` -/
def synthesizerControl : Nat := 7

/-- `SYNTHESIZER_METHOD_COUNT` -/
def synthesizerMethodCount : Nat := 9

/-- `mrcp_synthesizer_event_id` -/
inductive SynthEvent where
  | speechMarker
  | speakComplete
  deriving Repr, DecidableEq

/-- The event with the given id, if there is one. -/
def synthEvent : Nat → Option SynthEvent
  | 0 => some .speechMarker
  | 1 => some .speakComplete
  | _ => none

/-- `SYNTHESIZER_SPEECH_MARKER` -/
def synthesizerSpeechMarker : Nat := 0

/-- `SYNTHESIZER_SPEAK_COMPLETE` -/
def synthesizerSpeakComplete : Nat := 1

/-- `SYNTHESIZER_EVENT_COUNT` -/
def synthesizerEventCount : Nat := 2

section

variable (memory : Nat → UInt8) (machine : SynthStateMachine) (message : MrcpMessage)

/-- `synth_state_change` -/
def synthStateChange (state : SynthState) : SynthStateMachine :=
  stateChange .idle machine state

/-- `synth_pending_requests_remove` -/
def synthPendingRequestsRemove := pendingRequestsRemove

/-! ## Requests -/

/-- `synth_request_set_params` -/
def synthRequestSetParams : Update SynthState :=
  setParams machine message

/-- `synth_request_speak` -/
def synthRequestSpeak : Update SynthState :=
  let message := inheritProperties machine message
  if machine.inProgress.isSome then queueUp machine message
  else requestDispatch machine message

/-- `synth_request_stop` -/
def synthRequestStop : Checked (Update SynthState) :=
  match machine.inProgress with
  | none => stopReply memory machine message
  | some speaker =>
    if selects (selectiveList message) speaker.requestId then
      .ok (requestDispatch machine message)
    else stopReply memory machine message

/-- `synth_request_pause` and `synth_request_resume`: dispatched in the state
they end, answered at once in the one they lead to. -/
def synthRequestToggle (source : SynthState) (machine : SynthStateMachine)
    (message : MrcpMessage) : Update SynthState :=
  match machine.inProgress with
  | none => responseDispatch machine (methodNotValid message)
  | some _ =>
    if machine.state = source then requestDispatch machine message
    else responseDispatch machine (mrcpResponseCreate message)

/-- `synth_request_pause` -/
def synthRequestPause := synthRequestToggle .speaking

/-- `synth_request_resume` -/
def synthRequestResume := synthRequestToggle .paused

/-- `kill_on_barge_in` of `synth_request_barge_in_occurred` -/
def killOnBargeIn : Bool :=
  match message.header.data with
  | none => true
  | some data =>
    if mrcpResourceHeaderPropertyCheck message synthesizerHeaderKillOnBargeIn then
      data.killOnBargeIn
    else true

/-- `synth_request_barge_in_occurred` -/
def synthRequestBargeInOccurred : Update SynthState :=
  if machine.inProgress.isSome && killOnBargeIn message then requestDispatch machine message
  else responseDispatch machine (mrcpResponseCreate message)

/-- `synth_request_control` -/
def synthRequestControl : Update SynthState :=
  if machine.state = .speaking then requestDispatch machine message
  else responseDispatch machine (mrcpResponseCreate message)

/-- `synth_request_define_lexicon` -/
def synthRequestDefineLexicon : Update SynthState :=
  if machine.state = .idle then requestDispatch machine message
  else responseDispatch machine (methodNotValid message)

/-! ## Responses

`active` is `*active_request`, which `synth_response_state_update` has tested. -/

/-- `synth_response_get_params` -/
def synthResponseGetParams (active message : MrcpMessage) : Update SynthState :=
  getParams machine active message

/-- `synth_response_speak`: a SPEECH-MARKER event tells the client that its
pending request has begun. -/
def synthResponseSpeak (active message : MrcpMessage) : Update SynthState :=
  let machine :=
    if message.startLine.requestState = .inProgress then
      synthStateChange { machine with inProgress := some active } .speaking
    else machine
  if machine.isPending then
    eventDispatch { machine with isPending := false }
      (setRequestState (mrcpEventCreate active synthesizerSpeechMarker) .inProgress)
  else responseDispatch machine message

/-- `synth_response_stop` -/
def synthResponseStop (active message : MrcpMessage) : Checked (Update SynthState) := do
  let message ← reportInProgress memory machine message
  let (queue, message) ← synthPendingRequestsRemove memory machine.queue active message
  let machine := synthStateChange { machine with queue := queue } .idle
  return processPending (responseDispatch machine message)

/-- `synth_response_pause` and `synth_response_resume` -/
def synthResponseToggle (target : SynthState) (memory : Nat → UInt8)
    (machine : SynthStateMachine) (message : MrcpMessage) : Checked (Update SynthState) :=
  if message.startLine.statusCode = statusCodeSuccess then do
    let message ← reportInProgress memory machine message
    return responseDispatch (synthStateChange machine target) message
  else .ok (responseDispatch machine message)

/-- `synth_response_pause` -/
def synthResponsePause := synthResponseToggle .paused

/-- `synth_response_resume` -/
def synthResponseResume := synthResponseToggle .speaking

/-- `synth_response_barge_in_occurred`: the queue is not looked at again. -/
def synthResponseBargeInOccurred (active message : MrcpMessage) : Checked (Update SynthState) := do
  let message ← reportInProgress memory machine message
  let (queue, message) ← synthPendingRequestsRemove memory machine.queue active message
  let machine := synthStateChange { machine with queue := queue } .idle
  return responseDispatch machine message

/-- `synth_response_control` -/
def synthResponseControl : Checked (Update SynthState) := do
  let message ← reportInProgress memory machine message
  return responseDispatch machine message

/-! ## Events -/

/-- `synth_event_speech_marker` -/
def synthEventSpeechMarker : Update SynthState :=
  match machine.inProgress with
  | none => unexpected machine
  | some speaker =>
    if speaker.requestId ≠ message.requestId then unexpected machine
    else eventDispatch machine (setRequestState message .inProgress)

/-- `synth_event_speak_complete` -/
def synthEventSpeakComplete : Checked (Update SynthState) :=
  match machine.inProgress with
  | none => .ok (unexpected machine)
  | some speaker =>
    if speaker.requestId ≠ message.requestId then .ok (unexpected machine)
    else if waitsForStop machine synthesizerStop then .ok (unexpected machine)
    else do
      let message ← completionCauseDefault .synthesizer message
      return processPending (eventDispatch (synthStateChange machine .idle) message)

/-! ## The machine -/

/-- `synth_request_state_update` -/
def synthRequestStateUpdate : Checked (Update SynthState) :=
  match synthMethod message.startLine.methodId with
  | none => .ok (unexpected machine)
  | some .setParams => .ok (synthRequestSetParams machine message)
  -- `synth_request_get_params`
  | some .getParams => .ok (requestDispatch machine message)
  | some .speak => .ok (synthRequestSpeak machine message)
  | some .stop => synthRequestStop memory machine message
  | some .pause => .ok (synthRequestPause machine message)
  | some .resume => .ok (synthRequestResume machine message)
  | some .bargeInOccurred => .ok (synthRequestBargeInOccurred machine message)
  | some .control => .ok (synthRequestControl machine message)
  | some .defineLexicon => .ok (synthRequestDefineLexicon machine message)

/-- `synth_response_state_update` -/
def synthResponseStateUpdate : Checked (Update SynthState) :=
  match machine.activeRequest with
  | none => .ok (unexpected machine)
  | some active =>
    if active.requestId ≠ message.requestId then .ok (unexpected machine)
    else
      match synthMethod message.startLine.methodId with
      | none => .ok (unexpected machine)
      | some .getParams => .ok (synthResponseGetParams machine active message)
      | some .speak => .ok (synthResponseSpeak machine active message)
      | some .stop => synthResponseStop memory machine active message
      | some .pause => synthResponsePause memory machine message
      | some .resume => synthResponseResume memory machine message
      | some .bargeInOccurred => synthResponseBargeInOccurred memory machine active message
      | some .control => synthResponseControl memory machine message
      -- the other two only pass the response on
      | some .setParams | some .defineLexicon => .ok (responseDispatch machine message)

/-- `synth_event_state_update` -/
def synthEventStateUpdate : Checked (Update SynthState) :=
  match synthEvent message.startLine.methodId with
  | none => .ok (unexpected machine)
  | some .speechMarker => .ok (synthEventSpeechMarker machine message)
  | some .speakComplete => synthEventSpeakComplete machine message

/-- `synth_state_update` -/
def synthStateUpdate : Checked (Update SynthState) :=
  match message.startLine.messageType with
  | .request => synthRequestStateUpdate memory machine message
  | .response => synthResponseStateUpdate memory machine message
  | .event => synthEventStateUpdate machine message
  | .unknown => .ok (unexpected machine)

/-- `mrcp_state_machine_deactivate` with `synth_state_deactivate` -/
def synthStateDeactivate : Update SynthState :=
  let machine := { machine with active := false }
  match machine.inProgress with
  | none => unexpected machine
  | some source => requestDispatch machine (deactivateRequest source synthesizerStop)

end

/-- `mrcp_synth_state_machine_create` -/
def mrcpSynthStateMachineCreate (version : MrcpVersion) : SynthStateMachine :=
  ⟨true, .idle, false, none, none, [], mrcpMessageHeaderCreate .synthesizer version⟩

end UniMrcp.Engine
