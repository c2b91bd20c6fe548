import UniMrcp.Engine.Recog
import UniMrcp.Engine.Synth
import UniMrcp.Engine.Recorder
import UniMrcp.Engine.Verifier

/-!
# The state machine of a channel

`mrcp_state_machine_t` is a base with two virtual functions, `update` and
`deactivate`.  The session calls them without looking at the resource.

`on_dispatch` of the session takes the next request of the client from its
queue when it gets a response, and so it may call `update` again before the
first call has returned.  All handlers make their call last, except for those
of STOP responses: they go on with the next pending request.  `Reaction` keeps
this request apart from the calls before it.
-/

namespace UniMrcp.Server

open UniMrcp.Lib UniMrcp.Mrcp UniMrcp.Engine

/-- `mrcp_state_machine_t` -/
inductive Machine where
  | recognizer (machine : RecogStateMachine)
  | synthesizer (machine : SynthStateMachine)
  | recorder (machine : RecorderStateMachine)
  | verifier (machine : VerifierStateMachine)
  deriving DecidableEq

/-- What an update does: the machine as the calls find it, the calls, and the
pending request that is dispatched when they have returned. -/
structure Reaction where
  machine : Machine
  callbacks : List Callback
  pending : Option MrcpMessage
  deriving DecidableEq

/-- A call that may come back to the machine: a response lets the session take
its next request, and a deactivation lets it go on with the termination. -/
def Callback.returns : Callback → Bool
  | .onDispatch message => message.startLine.messageType == .response
  | .onDeactivate => true

/-- The reaction of an update.  `recog_response_stop` and `synth_response_stop`
take the pending request from the queue, pass the response on, and then set
`is_pending` and `active_request`. -/
def reactionOf {State : Type} (wrap : StateMachine State → Machine)
    (before : StateMachine State) (update : Update State) : Reaction :=
  match update.callbacks with
  | [first, .onDispatch pending] =>
    if Callback.returns first then
      ⟨wrap { update.machine with isPending := before.isPending, activeRequest := none },
        [first], some pending⟩
    else ⟨wrap update.machine, update.callbacks, none⟩
  | callbacks => ⟨wrap update.machine, callbacks, none⟩

namespace Machine

/-- `mrcp_state_machine_update` -/
def update (memory : Nat → UInt8) (machine : Machine) (message : MrcpMessage) :
    Checked Reaction :=
  match machine with
  | .recognizer machine => do
    return reactionOf .recognizer machine (← recogStateUpdate memory machine message)
  | .synthesizer machine => do
    return reactionOf .synthesizer machine (← synthStateUpdate memory machine message)
  | .recorder machine => do
    return reactionOf .recorder machine (← recorderStateUpdate memory machine message)
  | .verifier machine => do
    return reactionOf .verifier machine (← verifierStateUpdate memory machine message)

/-- The machine when its next pending request goes to the engine. -/
def dispatchPending (machine : Machine) (pending : MrcpMessage) : Machine :=
  match machine with
  | .recognizer machine =>
    .recognizer { machine with isPending := true, activeRequest := some pending }
  | .synthesizer machine =>
    .synthesizer { machine with isPending := true, activeRequest := some pending }
  -- these have no queue
  | .recorder machine => .recorder machine
  | .verifier machine => .verifier machine

/-- `mrcp_state_machine_deactivate`: the machine, the request to the engine if
there is something to stop, and the status. -/
def deactivate (machine : Machine) : Machine × List Callback × Bool :=
  match machine with
  | .recognizer machine =>
    let update := recogStateDeactivate machine
    (.recognizer update.machine, update.callbacks, update.status)
  | .synthesizer machine =>
    let update := synthStateDeactivate machine
    (.synthesizer update.machine, update.callbacks, update.status)
  | .recorder machine =>
    let update := recorderStateDeactivate machine
    (.recorder update.machine, update.callbacks, update.status)
  | .verifier machine =>
    let update := verifierStateDeactivate machine
    (.verifier update.machine, update.callbacks, update.status)

end Machine

end UniMrcp.Server
