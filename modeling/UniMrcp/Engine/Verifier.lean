import UniMrcp.Engine.StateMachine

/-!
# The verifier state machine

A model of `mrcp-engine/src/mrcp_verifier_state_machine.c`.  `inProgress` is
`verify`.  The machine has no queue and no `is_pending`.
-/

namespace UniMrcp.Engine

open UniMrcp.Lib UniMrcp.Mrcp

/-- `mrcp_verifier_state_e` -/
inductive VerifierState where
  | idle
  | opened
  | verifying
  deriving Repr, DecidableEq

/-- `mrcp_verifier_state_machine_t` -/
abbrev VerifierStateMachine := StateMachine VerifierState

/-- `mrcp_verifier_method_id` -/
inductive VerifierMethod where
  | setParams
  | getParams
  | startSession
  | endSession
  | queryVoiceprint
  | deleteVoiceprint
  | verify
  | verifyFromBuffer
  | verifyRollback
  | stop
  | clearBuffer
  | startInputTimers
  | getIntermidiateResult
  deriving Repr, DecidableEq

/-- The method with the given id; the ids stop at `VERIFIER_METHOD_COUNT`. -/
def verifierMethod : Nat → Option VerifierMethod
  | 0 => some .setParams
  | 1 => some .getParams
  | 2 => some .startSession
  | 3 => some .endSession
  | 4 => some .queryVoiceprint
  | 5 => some .deleteVoiceprint
  | 6 => some .verify
  | 7 => some .verifyFromBuffer
  | 8 => some .verifyRollback
  | 9 => some .stop
  | 10 => some .clearBuffer
  | 11 => some .startInputTimers
  | 12 => some .getIntermidiateResult
  | _ => none

/-- `VERIFIER_STOP` -/
def verifierStop : Nat := 9

/-- `mrcp_verifier_event_id` -/
inductive VerifierEvent where
  | startOfInput
  | verificationComplete
  deriving Repr, DecidableEq

/-- The event with the given id; the ids stop at `VERIFIER_EVENT_COUNT`. -/
def verifierEvent : Nat → Option VerifierEvent
  | 0 => some .startOfInput
  | 1 => some .verificationComplete
  | _ => none

section

variable (memory : Nat → UInt8) (machine : VerifierStateMachine) (message : MrcpMessage)

/-- `verifier_state_change` -/
def verifierStateChange (state : VerifierState) : VerifierStateMachine :=
  stateChange .idle machine state

/-! ## Requests -/

/-- The handlers of requests that are not valid in some states: the rest goes
to the engine. -/
def verifierRequestUnless (invalid : List VerifierState) (machine : VerifierStateMachine)
    (message : MrcpMessage) : Update VerifierState :=
  if machine.state ∈ invalid then responseDispatch machine (methodNotValid message)
  else requestDispatch machine message

/-- `verifier_request_set_params` -/
def verifierRequestSetParams : Update VerifierState :=
  setParams machine message

/-- `verifier_request_start_session` -/
def verifierRequestStartSession := verifierRequestUnless [.verifying]

/-- `verifier_request_end_session` -/
def verifierRequestEndSession := verifierRequestUnless [.idle]

/-- `verifier_request_query_voiceprint` -/
def verifierRequestQueryVoiceprint := verifierRequestUnless [.idle]

/-- `verifier_request_delete_voiceprint` -/
def verifierRequestDeleteVoiceprint := verifierRequestUnless [.idle]

/-- `verifier_request_start_input_timers` -/
def verifierRequestStartInputTimers := verifierRequestUnless [.idle, .verifying]

/-- `verifier_request_get_intermidiate_result` -/
def verifierRequestGetIntermidiateResult := verifierRequestUnless [.idle, .opened]

/-- `verifier_request_verify`, `verifier_request_verify_from_buffer`: the
request is stored before the engine has accepted it. -/
def verifierRequestVerify : Update VerifierState :=
  if machine.state = .idle ∨ machine.state = .verifying then
    responseDispatch machine (methodNotValid message)
  else requestDispatch { machine with inProgress := some message } message

/-- `verifier_request_stop` -/
def verifierRequestStop : Update VerifierState :=
  match machine.state with
  | .idle => responseDispatch machine (methodNotValid message)
  | .opened => responseDispatch machine (mrcpResponseCreate message)
  | .verifying => requestDispatch machine message

/-! ## Responses -/

/-- `verifier_response_get_params` -/
def verifierResponseGetParams (active message : MrcpMessage) : Update VerifierState :=
  getParams machine active message

/-- `verifier_response_start_session` -/
def verifierResponseStartSession : Update VerifierState :=
  responseDispatch (verifierStateChange machine .opened) message

/-- `verifier_response_end_session` -/
def verifierResponseEndSession : Update VerifierState :=
  responseDispatch (verifierStateChange machine .idle) message

/-- `verifier_response_verify`, `verifier_response_verify_from_buffer`: neither
the status nor the request state is looked at. -/
def verifierResponseVerify : Update VerifierState :=
  responseDispatch (verifierStateChange machine .verifying) message

/-- `verifier_response_stop` -/
def verifierResponseStop : Checked (Update VerifierState) := do
  let message ← reportInProgress memory machine message
  return responseDispatch (verifierStateChange machine .opened) message

/-! ## Events -/

/-- `verifier_event_start_of_input` -/
def verifierEventStartOfInput : Update VerifierState :=
  match machine.inProgress with
  | none => unexpected machine
  | some verify =>
    if verify.requestId ≠ message.requestId then unexpected machine
    else eventDispatch machine (setRequestState message .inProgress)

/-- `verifier_event_verification_complete` -/
def verifierEventVerificationComplete : Checked (Update VerifierState) :=
  match machine.inProgress with
  | none => .ok (unexpected machine)
  | some verify =>
    if verify.requestId ≠ message.requestId then .ok (unexpected machine)
    else if waitsForStop machine verifierStop then .ok (unexpected machine)
    else do
      let message ← completionCauseDefault .verifier message
      return eventDispatch (verifierStateChange machine .opened) message

/-! ## The machine -/

/-- `verifier_request_state_update` -/
def verifierRequestStateUpdate : Update VerifierState :=
  match verifierMethod message.startLine.methodId with
  | none => unexpected machine
  | some .setParams => verifierRequestSetParams machine message
  | some .startSession => verifierRequestStartSession machine message
  | some .endSession => verifierRequestEndSession machine message
  | some .queryVoiceprint => verifierRequestQueryVoiceprint machine message
  | some .deleteVoiceprint => verifierRequestDeleteVoiceprint machine message
  | some .verify | some .verifyFromBuffer => verifierRequestVerify machine message
  | some .stop => verifierRequestStop machine message
  | some .startInputTimers => verifierRequestStartInputTimers machine message
  | some .getIntermidiateResult => verifierRequestGetIntermidiateResult machine message
  -- the other handlers only pass the request on
  | some .getParams | some .verifyRollback | some .clearBuffer =>
    requestDispatch machine message

/-- `verifier_response_state_update` -/
def verifierResponseStateUpdate : Checked (Update VerifierState) :=
  match machine.activeRequest with
  | none => .ok (unexpected machine)
  | some active =>
    if active.requestId ≠ message.requestId then .ok (unexpected machine)
    else
      match verifierMethod message.startLine.methodId with
      | none => .ok (unexpected machine)
      | some .getParams => .ok (verifierResponseGetParams machine active message)
      | some .startSession => .ok (verifierResponseStartSession machine message)
      | some .endSession => .ok (verifierResponseEndSession machine message)
      | some .verify | some .verifyFromBuffer => .ok (verifierResponseVerify machine message)
      | some .stop => verifierResponseStop memory machine message
      -- the other handlers only pass the response on
      | some .setParams | some .queryVoiceprint | some .deleteVoiceprint
      | some .verifyRollback | some .clearBuffer | some .startInputTimers
      | some .getIntermidiateResult => .ok (responseDispatch machine message)

/-- `verifier_event_state_update` -/
def verifierEventStateUpdate : Checked (Update VerifierState) :=
  match verifierEvent message.startLine.methodId with
  | none => .ok (unexpected machine)
  | some .startOfInput => .ok (verifierEventStartOfInput machine message)
  | some .verificationComplete => verifierEventVerificationComplete machine message

/-- `verifier_state_update` -/
def verifierStateUpdate : Checked (Update VerifierState) :=
  match message.startLine.messageType with
  | .request => .ok (verifierRequestStateUpdate machine message)
  | .response => verifierResponseStateUpdate memory machine message
  | .event => verifierEventStateUpdate machine message
  | .unknown => .ok (unexpected machine)

/-- `mrcp_state_machine_deactivate` with `verifier_state_deactivate` -/
def verifierStateDeactivate : Update VerifierState :=
  let machine := { machine with active := false }
  match machine.state, machine.inProgress with
  | .verifying, some source => requestDispatch machine (deactivateRequest source verifierStop)
  | _, _ => unexpected machine

end

/-- `mrcp_verifier_state_machine_create` -/
def mrcpVerifierStateMachineCreate (version : MrcpVersion) : VerifierStateMachine :=
  ⟨true, .idle, false, none, none, [], mrcpMessageHeaderCreate .verifier version⟩

end UniMrcp.Engine
