import UniMrcp.Mrcp.HeaderFields

/-!
# State machines of the engine layer

What `mrcp_recog_state_machine.c` and `mrcp_synth_state_machine.c`
(`mrcp-engine/src`) have in common.  A machine stands between the client and
the engine of a channel: it gets the requests of the one and the responses and
events of the other, and passes them on by `on_dispatch`.

* `activeRequest` is the request that waits for the response of the engine;
* `inProgress` is `recog` of the recognizer and `speaker` of the synthesizer;
* `queue` holds the RECOGNIZE or SPEAK requests behind it, which the client
  has been told are PENDING;
* `isPending` says that `activeRequest` was taken from the queue.

A function that follows a NULL pointer has no outcome; it fails with the
pointer.  `on_dispatch` is taken to return before the machine gets its next
message, and to return TRUE, as `state_machine_on_message_dispatch` does.
-/

namespace UniMrcp.Engine

open UniMrcp.Lib UniMrcp.Mrcp

/-- The pointers that the machines follow without a test. -/
inductive NullPointer where
  /-- `recog` or `speaker` -/
  | inProgress
  /-- what `mrcp_generic_header_prepare` returns -/
  | genericHeader
  /-- what `mrcp_resource_header_prepare` returns -/
  | resourceHeader
  deriving Repr, DecidableEq

/-- The outcome of code that may follow a NULL pointer. -/
abbrev Checked := Except NullPointer

/-- A sequence has an outcome if its parts have one. -/
theorem Checked.bind_eq_ok {α β : Type} {x : Checked α} {f : α → Checked β} {b : β} :
    (x >>= f) = .ok b ↔ ∃ a, x = .ok a ∧ f a = .ok b := by
  cases x with
  | error e =>
    constructor
    · exact fun h => by cases h
    · rintro ⟨a, ha, -⟩
      cases ha
  | ok a =>
    constructor
    · exact fun h => ⟨a, rfl, h⟩
    · rintro ⟨a', ha, h⟩
      cases ha
      exact h

/-- The calls a machine makes. -/
inductive Callback where
  | onDispatch (message : MrcpMessage)
  | onDeactivate
  deriving Repr, DecidableEq

/-- `mrcp_recog_state_machine_t` and `mrcp_synth_state_machine_t`; `active` is
that of the base. -/
structure StateMachine (State : Type) where
  active : Bool
  state : State
  isPending : Bool
  activeRequest : Option MrcpMessage
  inProgress : Option MrcpMessage
  queue : List MrcpMessage
  properties : MessageHeader
  deriving Repr, DecidableEq

/-- What a handler leaves behind: the machine, the calls in order and the
status. -/
structure Update (State : Type) where
  machine : StateMachine State
  callbacks : List Callback
  status : Bool
  deriving Repr, DecidableEq

section Dispatch

variable {State : Type}

section

variable (machine : StateMachine State) (message : MrcpMessage)

/-- `recog_request_dispatch`, `synth_request_dispatch` -/
def requestDispatch : Update State :=
  ⟨{ machine with activeRequest := some message }, [.onDispatch message], true⟩

/-- `recog_response_dispatch`, `synth_response_dispatch` -/
def responseDispatch : Update State :=
  ⟨{ machine with activeRequest := none },
    [if machine.active then .onDispatch message else .onDeactivate], true⟩

/-- `recog_event_dispatch`, `synth_event_dispatch` -/
def eventDispatch : Update State :=
  if machine.active then ⟨machine, [.onDispatch message], true⟩ else ⟨machine, [], false⟩

/-- The message is not expected, and nothing happens. -/
def unexpected : Update State := ⟨machine, [], false⟩

/-- `recog_state_change`, `synth_state_change` -/
def stateChange [DecidableEq State] (idle : State) (machine : StateMachine State)
    (state : State) : StateMachine State :=
  { machine with
    state := state
    inProgress := if state = idle then none else machine.inProgress }

/-- The end of the handlers that let the next pending request go: it is taken
from the queue and dispatched.  They return TRUE. -/
def processPending (update : Update State) : Update State :=
  match update.machine.queue with
  | [] => { update with status := true }
  | pending :: queue =>
    let next := requestDispatch { update.machine with queue := queue, isPending := true } pending
    ⟨next.machine, update.callbacks ++ next.callbacks, true⟩

/-- The response to a request that is not allowed in the state. -/
def methodNotValid : MrcpMessage :=
  let response := mrcpResponseCreate message
  { response with
    startLine := { response.startLine with statusCode := statusCodeMethodNotValid } }

/-- The message with another request state. -/
def setRequestState (state : RequestState) : MrcpMessage :=
  { message with startLine := { message.startLine with requestState := state } }

/-- The first half of RECOGNIZE and SPEAK: the parameters of the channel. -/
def inheritProperties : MrcpMessage :=
  { message with header := mrcpHeaderFieldsInherit message.header machine.properties }

/-- A RECOGNIZE or SPEAK that has to wait. -/
def queueUp : Update State :=
  let message := setRequestState message .pending
  responseDispatch { machine with queue := machine.queue ++ [message] }
    (setRequestState (mrcpResponseCreate message) .pending)

/-- The request handler of SET-PARAMS. -/
def setParams : Update State :=
  requestDispatch
    { machine with properties := mrcpHeaderFieldsSet machine.properties message.header } message

/-- The response handler of GET-PARAMS. -/
def getParams (active message : MrcpMessage) : Update State :=
  responseDispatch machine
    { message with header := mrcpHeaderFieldsGet message.header machine.properties active.header }

end

end Dispatch

/-! ## The ids of a STOP -/

/-- The list of a selective request: `Active-Request-Id-List` is there and not
empty. -/
def selectiveList (message : MrcpMessage) : Option RequestIdList :=
  match message.header.data with
  | none => none
  | some data =>
    if mrcpGenericHeaderPropertyCheck message genericHeaderActiveRequestIdList &&
        !data.generic.activeRequestIdList.ids.isEmpty then
      some data.generic.activeRequestIdList
    else none

/-- A request without a list selects every id. -/
def selects (list : Option RequestIdList) (requestId : UInt32) : Bool :=
  match list with
  | none => true
  | some list => activeRequestIdListFind list requestId

/-- `mrcp_generic_header_prepare`, followed -/
def mrcpGenericHeaderPrepare (message : MrcpMessage) : Checked GenericHeader :=
  match message.header.data with
  | none => .error .genericHeader
  | some data => .ok data.generic

/-- `active_request_id_list_append` on the header of a message; the status is
not looked at. -/
def appendActiveId (generic : GenericHeader) (requestId : UInt32) : GenericHeader :=
  { generic with
    activeRequestIdList := (activeRequestIdListAppend generic.activeRequestIdList requestId).2 }

/-- The loop of `recog_pending_requests_remove` and its twin: what stays in
the queue, and the generic header of the response. -/
def pendingRequestsLoop (list : Option RequestIdList) :
    List MrcpMessage → GenericHeader → List MrcpMessage × GenericHeader
  | [], generic => ([], generic)
  | pending :: queue, generic =>
    if selects list pending.requestId then
      pendingRequestsLoop list queue (appendActiveId generic pending.requestId)
    else
      let (queue, generic) := pendingRequestsLoop list queue generic
      (pending :: queue, generic)

/-- `recog_pending_requests_remove`, `synth_pending_requests_remove`: the
queue and the response. -/
def pendingRequestsRemove (memory : Nat → UInt8) (queue : List MrcpMessage)
    (request response : MrcpMessage) :
    Checked (List MrcpMessage × MrcpMessage) := do
  let generic ← mrcpGenericHeaderPrepare response
  let (queue, generic) := pendingRequestsLoop (selectiveList request) queue generic
  let response := response.setGeneric generic
  if generic.activeRequestIdList.ids.isEmpty then
    return (queue, response)
  else
    return (queue,
      (mrcpGenericHeaderPropertyAdd memory response genericHeaderActiveRequestIdList).2)

/-- The block "append active id list" of the response handlers: the id of the
request in progress goes into the list of the response, and the list becomes
a header field. -/
def reportInProgress {State : Type} (memory : Nat → UInt8) (machine : StateMachine State)
    (message : MrcpMessage) : Checked MrcpMessage :=
  match machine.inProgress with
  | none => .error .inProgress
  | some request => do
    let generic ← mrcpGenericHeaderPrepare message
    let message := message.setGeneric (appendActiveId generic request.requestId)
    return (mrcpGenericHeaderPropertyAdd memory message genericHeaderActiveRequestIdList).2

/-- The immediate response to a STOP. -/
def stopReply {State : Type} (memory : Nat → UInt8) (machine : StateMachine State)
    (message : MrcpMessage) : Checked (Update State) := do
  let (queue, response) ←
    pendingRequestsRemove memory machine.queue message (mrcpResponseCreate message)
  return responseDispatch { machine with queue := queue } response

/-- A completion event or a response without a completion cause gets cause 0,
SUCCESS or NORMAL. -/
def completionCauseDefault (resource : MrcpResource) (message : MrcpMessage) :
    Checked MrcpMessage :=
  if mrcpResourceHeaderPropertyCheck message (completionCauseId resource) then .ok message
  else
    match message.header.data with
    | none => .error .resourceHeader
    | some data =>
      let header := { message.header with data := some { data with completionCause := 0 } }
      .ok (completionCausePropertyAdd { message with header := header }).2

/-- The test of the completion events whether a STOP waits for its response. -/
def waitsForStop {State : Type} (machine : StateMachine State) (stop : Nat) : Bool :=
  match machine.activeRequest with
  | none => false
  | some active => active.startLine.methodId == stop

/-- The internal STOP of `recog_state_deactivate` and `synth_state_deactivate`. -/
def deactivateRequest (source : MrcpMessage) (stop : Nat) : MrcpMessage :=
  let message := mrcpRequestCreate source.resource source.startLine.version stop
  { message with
    channelId := source.channelId
    startLine := { message.startLine with
      requestId := source.requestId + 1
      methodName := bytesOf "DEACTIVATE" }
    header := source.header }

/-- The first test of a handler: whether the message belongs to the request that
a pointer names. -/
theorem matched_cases {α : Type} {P : α → Prop} {stored : Option MrcpMessage}
    {message : MrcpMessage} {other : α} {handle : MrcpMessage → α} :
    ((∀ request, stored = some request → request.requestId ≠ message.requestId) → P other) →
    (∀ request, stored = some request → request.requestId = message.requestId →
      P (handle request)) →
    P (match stored with
      | none => other
      | some request =>
        if request.requestId ≠ message.requestId then other else handle request) := by
  intro hother hmatched
  cases stored with
  | none => exact hother (by simp)
  | some request =>
    by_cases hid : request.requestId = message.requestId
    · simp only [hid, ne_eq]
      exact hmatched request rfl hid
    · simp only [hid, ne_eq]
      exact hother fun _ h => Option.some.inj h ▸ hid

end UniMrcp.Engine
