import UniMrcp.Engine.StateMachine

/-!
# The recorder state machine

A model of `mrcp-engine/src/mrcp_recorder_state_machine.c`.  `inProgress` is
`record`.  The machine has no queue and no `is_pending`.
-/

namespace UniMrcp.Engine

open UniMrcp.Lib UniMrcp.Mrcp

/-- `mrcp_recorder_state_e` -/
inductive RecorderState where
  | idle
  | recording
  deriving Repr, DecidableEq

/-- `mrcp_recorder_state_machine_t` -/
abbrev RecorderStateMachine := StateMachine RecorderState

/-- `mrcp_recorder_method_id` -/
inductive RecorderMethod where
  | setParams
  | getParams
  | record
  | stop
  | startInputTimers
  deriving Repr, DecidableEq

/-- The method with the given id; the ids stop at `RECORDER_METHOD_COUNT`. -/
def recorderMethod : Nat → Option RecorderMethod
  | 0 => some .setParams
  | 1 => some .getParams
  | 2 => some .record
  | 3 => some .stop
  | 4 => some .startInputTimers
  | _ => none

/-- `RECORDER_STOP` -/
def recorderStop : Nat := 3

/-- `mrcp_recorder_event_id` -/
inductive RecorderEvent where
  | startOfInput
  | recordComplete
  deriving Repr, DecidableEq

/-- The event with the given id; the ids stop at `RECORDER_EVENT_COUNT`. -/
def recorderEvent : Nat → Option RecorderEvent
  | 0 => some .startOfInput
  | 1 => some .recordComplete
  | _ => none

section

variable (memory : Nat → UInt8) (machine : RecorderStateMachine) (message : MrcpMessage)

/-- `recorder_state_change` -/
def recorderStateChange (state : RecorderState) : RecorderStateMachine :=
  stateChange .idle machine state

/-! ## Requests -/

/-- `recorder_request_set_params` -/
def recorderRequestSetParams : Update RecorderState :=
  setParams machine message

/-- `recorder_request_get_params` -/
def recorderRequestGetParams : Update RecorderState :=
  requestDispatch machine message

/-- `recorder_request_record` -/
def recorderRequestRecord : Update RecorderState :=
  let message := inheritProperties machine message
  if machine.state = .recording then responseDispatch machine (methodNotValid message)
  else requestDispatch machine message

/-- `recorder_request_stop` -/
def recorderRequestStop : Update RecorderState :=
  if machine.state = .recording then requestDispatch machine message
  else responseDispatch machine (mrcpResponseCreate message)

/-- `recorder_request_start_timers` -/
def recorderRequestStartTimers : Update RecorderState :=
  if machine.state = .recording then requestDispatch machine message
  else responseDispatch machine (methodNotValid message)

/-! ## Responses -/

/-- `recorder_response_get_params` -/
def recorderResponseGetParams (active message : MrcpMessage) : Update RecorderState :=
  getParams machine active message

/-- `recorder_response_record` -/
def recorderResponseRecord (active message : MrcpMessage) : Update RecorderState :=
  let machine :=
    if message.startLine.requestState = .inProgress then
      recorderStateChange { machine with inProgress := some active } .recording
    else machine
  responseDispatch machine message

/-- `recorder_response_stop` -/
def recorderResponseStop : Checked (Update RecorderState) := do
  let message ← reportInProgress memory machine message
  return responseDispatch (recorderStateChange machine .idle) message

/-! ## Events -/

/-- `recorder_event_start_of_input` -/
def recorderEventStartOfInput : Update RecorderState :=
  match machine.inProgress with
  | none => unexpected machine
  | some record =>
    if record.requestId ≠ message.requestId then unexpected machine
    else eventDispatch machine (setRequestState message .inProgress)

/-- `recorder_event_record_complete` -/
def recorderEventRecordComplete : Checked (Update RecorderState) :=
  match machine.inProgress with
  | none => .ok (unexpected machine)
  | some record =>
    if record.requestId ≠ message.requestId then .ok (unexpected machine)
    else if waitsForStop machine recorderStop then .ok (unexpected machine)
    else do
      let message ← completionCauseDefault .recorder message
      return eventDispatch (recorderStateChange machine .idle) message

/-! ## The machine -/

/-- `recorder_request_state_update` -/
def recorderRequestStateUpdate : Update RecorderState :=
  match recorderMethod message.startLine.methodId with
  | none => unexpected machine
  | some .setParams => recorderRequestSetParams machine message
  | some .getParams => recorderRequestGetParams machine message
  | some .record => recorderRequestRecord machine message
  | some .stop => recorderRequestStop machine message
  | some .startInputTimers => recorderRequestStartTimers machine message

/-- `recorder_response_state_update` -/
def recorderResponseStateUpdate : Checked (Update RecorderState) :=
  match machine.activeRequest with
  | none => .ok (unexpected machine)
  | some active =>
    if active.requestId ≠ message.requestId then .ok (unexpected machine)
    else
      match recorderMethod message.startLine.methodId with
      | none => .ok (unexpected machine)
      | some .getParams => .ok (recorderResponseGetParams machine active message)
      | some .record => .ok (recorderResponseRecord machine active message)
      | some .stop => recorderResponseStop memory machine message
      -- the other handlers only pass the response on
      | some .setParams | some .startInputTimers => .ok (responseDispatch machine message)

/-- `recorder_event_state_update` -/
def recorderEventStateUpdate : Checked (Update RecorderState) :=
  match recorderEvent message.startLine.methodId with
  | none => .ok (unexpected machine)
  | some .startOfInput => .ok (recorderEventStartOfInput machine message)
  | some .recordComplete => recorderEventRecordComplete machine message

/-- `recorder_state_update` -/
def recorderStateUpdate : Checked (Update RecorderState) :=
  match message.startLine.messageType with
  | .request => .ok (recorderRequestStateUpdate machine message)
  | .response => recorderResponseStateUpdate memory machine message
  | .event => recorderEventStateUpdate machine message
  | .unknown => .ok (unexpected machine)

/-- `mrcp_state_machine_deactivate` with `recorder_state_deactivate` -/
def recorderStateDeactivate : Update RecorderState :=
  let machine := { machine with active := false }
  match machine.state, machine.inProgress with
  | .recording, some source => requestDispatch machine (deactivateRequest source recorderStop)
  | _, _ => unexpected machine

end

/-- `mrcp_recorder_state_machine_create` -/
def mrcpRecorderStateMachineCreate (version : MrcpVersion) : RecorderStateMachine :=
  ⟨true, .idle, false, none, none, [], mrcpMessageHeaderCreate .recorder version⟩

end UniMrcp.Engine
