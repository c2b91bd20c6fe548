import UniMrcp.Engine.StateMachine

/-!
# The recognizer state machine

A model of `mrcp-engine/src/mrcp_recog_state_machine.c`.
-/

namespace UniMrcp.Engine

open UniMrcp.Lib UniMrcp.Mrcp

/-- `mrcp_recog_state_e` -/
inductive RecogState where
  | idle
  | recognizing
  | recognized
  deriving Repr, DecidableEq

/-- `mrcp_recog_state_machine_t` -/
abbrev RecogStateMachine := StateMachine RecogState

/-- The methods of `mrcp_recognizer_method_id` that have handlers. -/
inductive RecogMethod where
  | setParams
  | getParams
  | defineGrammar
  | recognize
  | interpret
  | getResult
  | startInputTimers
  | stop
  /-- the entries of the method arrays that are NULL -/
  | other
  deriving Repr, DecidableEq

/-- The entry of the method arrays. -/
def recogMethod : Nat → RecogMethod
  | 0 => .setParams
  | 1 => .getParams
  | 2 => .defineGrammar
  | 3 => .recognize
  | 4 => .interpret
  | 5 => .getResult
  | 6 => .startInputTimers
  | 7 => .stop
  | _ => .other

/-- `RECOGNIZER_RECOGNIZE` -/
def recognizerRecognize : Nat := 3

/-- `RECOGNIZER_STOP` -/
def recognizerStop : Nat := 7

/-- `RECOGNIZER_METHOD_COUNT` -/
def recognizerMethodCount : Nat := 13

/-- `mrcp_recognizer_event_id` -/
inductive RecogEvent where
  | startOfInput
  | recognitionComplete
  | interpretationComplete
  deriving Repr, DecidableEq

/-- The event with the given id, if there is one. -/
def recogEvent : Nat → Option RecogEvent
  | 0 => some .startOfInput
  | 1 => some .recognitionComplete
  | 2 => some .interpretationComplete
  | _ => none

/-- `RECOGNIZER_START_OF_INPUT` -/
def recognizerStartOfInput : Nat := 0

/-- `RECOGNIZER_RECOGNITION_COMPLETE` -/
def recognizerRecognitionComplete : Nat := 1

/-- `RECOGNIZER_EVENT_COUNT` -/
def recognizerEventCount : Nat := 3

section

variable (memory : Nat → UInt8) (machine : RecogStateMachine) (message : MrcpMessage)

/-- `recog_state_change` -/
def recogStateChange (state : RecogState) : RecogStateMachine :=
  stateChange .idle machine state

/-- `recog_pending_requests_remove` -/
def recogPendingRequestsRemove := pendingRequestsRemove

/-! ## Requests -/

/-- `recog_request_set_params` -/
def recogRequestSetParams : Update RecogState :=
  setParams machine message

/-- `recog_request_define_grammar` -/
def recogRequestDefineGrammar : Update RecogState :=
  match machine.state with
  | .recognizing => responseDispatch machine (methodNotValid message)
  | .recognized => requestDispatch (recogStateChange machine .idle) message
  | .idle => requestDispatch machine message

/-- `recog_request_recognize` -/
def recogRequestRecognize : Update RecogState :=
  let message := inheritProperties machine message
  if machine.state = .recognizing then queueUp machine message
  else requestDispatch machine message

/-- `recog_request_interpret` -/
def recogRequestInterpret : Update RecogState :=
  requestDispatch machine (inheritProperties machine message)

/-- `recog_request_get_result` -/
def recogRequestGetResult : Update RecogState :=
  if machine.state = .recognized then requestDispatch machine message
  else responseDispatch machine (methodNotValid message)

/-- `recog_request_recognition_start_timers` -/
def recogRequestRecognitionStartTimers : Update RecogState :=
  if machine.state = .recognizing then requestDispatch machine message
  else responseDispatch machine (methodNotValid message)

/-- `recog_request_stop` -/
def recogRequestStop : Checked (Update RecogState) :=
  match machine.state with
  | .recognizing =>
    match selectiveList message with
    | none => .ok (requestDispatch machine message)
    | some list =>
      match machine.inProgress with
      | none => .error .inProgress
      | some recog =>
        if activeRequestIdListFind list recog.requestId then
          .ok (requestDispatch machine message)
        else stopReply memory machine message
  | .recognized => stopReply memory (recogStateChange machine .idle) message
  | .idle => stopReply memory machine message

/-! ## Responses

`active` is `*active_request`, which `recog_response_state_update` has tested. -/

/-- `recog_response_get_params` -/
def recogResponseGetParams (active message : MrcpMessage) : Update RecogState :=
  getParams machine active message

/-- `recog_response_define_grammar` -/
def recogResponseDefineGrammar : Checked (Update RecogState) := do
  let message ← completionCauseDefault .recognizer message
  return responseDispatch machine message

/-- `recog_response_recognize` -/
def recogResponseRecognize (active message : MrcpMessage) : Update RecogState :=
  let machine :=
    if message.startLine.requestState = .inProgress then
      recogStateChange { machine with inProgress := some active } .recognizing
    else machine
  if machine.isPending then ⟨{ machine with isPending := false }, [], true⟩
  else responseDispatch machine message

/-- `recog_response_stop` -/
def recogResponseStop (active message : MrcpMessage) : Checked (Update RecogState) := do
  let message ← reportInProgress memory machine message
  let (queue, message) ← recogPendingRequestsRemove memory machine.queue active message
  let machine := recogStateChange { machine with queue := queue } .idle
  return processPending (responseDispatch machine message)

/-! ## Events -/

/-- `recog_event_start_of_input` -/
def recogEventStartOfInput : Update RecogState :=
  match machine.inProgress with
  | none => unexpected machine
  | some recog =>
    if recog.requestId ≠ message.requestId then unexpected machine
    else eventDispatch machine (setRequestState message .inProgress)

/-- `recog_event_recognition_complete` -/
def recogEventRecognitionComplete : Checked (Update RecogState) :=
  match machine.inProgress with
  | none => .ok (unexpected machine)
  | some recog =>
    if recog.requestId ≠ message.requestId then .ok (unexpected machine)
    else if waitsForStop machine recognizerStop then .ok (unexpected machine)
    else do
      let message ← completionCauseDefault .recognizer message
      return processPending (eventDispatch (recogStateChange machine .recognized) message)

/-- `recog_event_interpretation_complete` -/
def recogEventInterpretationComplete : Checked (Update RecogState) := do
  let message ← completionCauseDefault .recognizer message
  return eventDispatch machine message

/-! ## The machine -/

/-- `recog_request_state_update` -/
def recogRequestStateUpdate : Checked (Update RecogState) :=
  if message.startLine.methodId ≥ recognizerMethodCount then .ok (unexpected machine)
  else
    match recogMethod message.startLine.methodId with
    | .setParams => .ok (recogRequestSetParams machine message)
    | .defineGrammar => .ok (recogRequestDefineGrammar machine message)
    | .recognize => .ok (recogRequestRecognize machine message)
    | .interpret => .ok (recogRequestInterpret machine message)
    | .getResult => .ok (recogRequestGetResult machine message)
    | .startInputTimers => .ok (recogRequestRecognitionStartTimers machine message)
    | .stop => recogRequestStop memory machine message
    -- `recog_request_get_params` does what a method without a handler does
    | .getParams | .other => .ok (requestDispatch machine message)

/-- `recog_response_state_update` -/
def recogResponseStateUpdate : Checked (Update RecogState) :=
  match machine.activeRequest with
  | none => .ok (unexpected machine)
  | some active =>
    if active.requestId ≠ message.requestId then .ok (unexpected machine)
    else if message.startLine.methodId ≥ recognizerMethodCount then .ok (unexpected machine)
    else
      match recogMethod message.startLine.methodId with
      | .getParams => .ok (recogResponseGetParams machine active message)
      | .defineGrammar => recogResponseDefineGrammar machine message
      | .recognize => .ok (recogResponseRecognize machine active message)
      | .stop => recogResponseStop memory machine active message
      -- the other handlers only pass the response on
      | .setParams | .interpret | .getResult | .startInputTimers | .other =>
        .ok (responseDispatch machine message)

/-- `recog_event_state_update` -/
def recogEventStateUpdate : Checked (Update RecogState) :=
  match recogEvent message.startLine.methodId with
  | none => .ok (unexpected machine)
  | some .startOfInput => .ok (recogEventStartOfInput machine message)
  | some .recognitionComplete => recogEventRecognitionComplete machine message
  | some .interpretationComplete => recogEventInterpretationComplete machine message

/-- `recog_state_update` -/
def recogStateUpdate : Checked (Update RecogState) :=
  match message.startLine.messageType with
  | .request => recogRequestStateUpdate memory machine message
  | .response => recogResponseStateUpdate memory machine message
  | .event => recogEventStateUpdate machine message
  | .unknown => .ok (unexpected machine)

/-- `mrcp_state_machine_deactivate` with `recog_state_deactivate` -/
def recogStateDeactivate : Update RecogState :=
  let machine := { machine with active := false }
  match machine.state, machine.inProgress with
  | .recognizing, some source =>
    requestDispatch machine (deactivateRequest source recognizerStop)
  | _, _ => unexpected machine

end

/-- `mrcp_recog_state_machine_create` -/
def mrcpRecogStateMachineCreate (version : MrcpVersion) : RecogStateMachine :=
  ⟨true, .idle, false, none, none, [], mrcpMessageHeaderCreate .recognizer version⟩

end UniMrcp.Engine
