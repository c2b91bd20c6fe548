import UniMrcp.Engine.Observed
import UniMrcp.Engine.Verifier

/-!
# The life of a verification

The state of the verifier follows the responses of the engine, and the handlers
do not look whether a response is a success: `verifier_response_start_session`
opens the session and `verifier_response_verify` starts the verification
whatever the engine says.  A VERIFY is stored until END-SESSION, so that its
completion can be passed on again and again.

* `VerifierMove` lists what one message can do to the machine;
* `VerifyLog` is kept from what the client sends and gets;
* `verification_valid` says what the engine has to do for the state to mean what
  it says.
-/

namespace UniMrcp.Engine

open UniMrcp.Lib UniMrcp.Mrcp

/-- `VERIFIER_START_SESSION` -/
def verifierStartSession : Nat := 2

/-- `VERIFIER_END_SESSION` -/
def verifierEndSession : Nat := 3

/-- `VERIFIER_VERIFY`, `VERIFIER_VERIFY_FROM_BUFFER` -/
def verifyMethods : List Nat := [6, 7]

/-- `VERIFIER_EVENT_VERIFICATION_COMPLETE` -/
def verifierVerificationComplete : Nat := 1

/-- The status of a response to an accepted request: SUCCESS or SUCCESS WITH
IGNORE. -/
def Successful (message : MrcpMessage) : Prop :=
  message.startLine.statusCode = statusCodeSuccess ∨ message.startLine.statusCode = 201

instance (message : MrcpMessage) : Decidable (Successful message) :=
  inferInstanceAs (Decidable (_ ∨ _))

/-! ## What a message can do -/

/-- The methods with a response handler that changes the state. -/
def stateMethods : List Nat := verifierStartSession :: verifierEndSession :: verifierStop ::
  verifyMethods

/-- What one message can do to an active machine, with the calls it makes. -/
inductive VerifierMove (machine : VerifierStateMachine) (message : MrcpMessage) :
    VerifierStateMachine → List Callback → Prop where
  | ignored : VerifierMove machine message machine []
  | dispatched (properties : MessageHeader)
      (htype : message.startLine.messageType = .request)
      (hmethod : message.startLine.methodId ∉ verifyMethods) :
      VerifierMove machine message
        { machine with activeRequest := some message, properties := properties }
        [.onDispatch message]
  | verifyDispatched (htype : message.startLine.messageType = .request)
      (hmethod : message.startLine.methodId ∈ verifyMethods) (hstate : machine.state = .opened) :
      VerifierMove machine message
        { machine with activeRequest := some message, inProgress := some message }
        [.onDispatch message]
  | replied (reply : MrcpMessage) (htype : reply.startLine.messageType = .response)
      (hstatus : Successful reply →
        reply.startLine.methodId = verifierStop ∧ machine.state ≠ .verifying) :
      VerifierMove machine message { machine with activeRequest := none } [.onDispatch reply]
  | answered (active reply : MrcpMessage) (hactive : Answers machine message active)
      (htype : reply.startLine.messageType = .response)
      (hmethod : reply.startLine.methodId ∉ stateMethods) :
      VerifierMove machine message { machine with activeRequest := none } [.onDispatch reply]
  | opened (active : MrcpMessage) (hactive : Answers machine message active)
      (htype : message.startLine.messageType = .response)
      (hmethod : message.startLine.methodId = verifierStartSession) :
      VerifierMove machine message { machine with state := .opened, activeRequest := none }
        [.onDispatch message]
  | closed (active : MrcpMessage) (hactive : Answers machine message active)
      (htype : message.startLine.messageType = .response)
      (hmethod : message.startLine.methodId = verifierEndSession) :
      VerifierMove machine message
        { machine with state := .idle, inProgress := none, activeRequest := none }
        [.onDispatch message]
  | verifying (active : MrcpMessage) (hactive : Answers machine message active)
      (htype : message.startLine.messageType = .response)
      (hmethod : message.startLine.methodId ∈ verifyMethods) :
      VerifierMove machine message { machine with state := .verifying, activeRequest := none }
        [.onDispatch message]
  | stopped (active verify reply : MrcpMessage) (hactive : Answers machine message active)
      (hstored : machine.inProgress = some verify)
      (htype : reply.startLine.messageType = .response)
      (hmethod : reply.startLine.methodId = verifierStop) :
      VerifierMove machine message { machine with state := .opened, activeRequest := none }
        [.onDispatch reply]
  | began (event : MrcpMessage) (htype : event.startLine.messageType = .event)
      (hmethod : event.startLine.methodId ≠ verifierVerificationComplete) :
      VerifierMove machine message machine [.onDispatch event]
  | completed (verify event : MrcpMessage) (hstored : machine.inProgress = some verify)
      (htype : message.startLine.messageType = .event)
      (hmethod : message.startLine.methodId = verifierVerificationComplete)
      (hid : verify.requestId = message.requestId) (hline : event.startLine = message.startLine)
      (hstop : waitsForStop machine verifierStop = false) :
      VerifierMove machine message { machine with state := .opened } [.onDispatch event]

/-- The id of a method. -/
def VerifierMethod.id : VerifierMethod → Nat
  | .setParams => 0
  | .getParams => 1
  | .startSession => 2
  | .endSession => 3
  | .queryVoiceprint => 4
  | .deleteVoiceprint => 5
  | .verify => 6
  | .verifyFromBuffer => 7
  | .verifyRollback => 8
  | .stop => 9
  | .clearBuffer => 10
  | .startInputTimers => 11
  | .getIntermidiateResult => 12

theorem verifierMethod_eq_some {id : Nat} {method : VerifierMethod}
    (h : verifierMethod id = some method) : id = method.id := by
  unfold verifierMethod at h
  split at h <;> cases h <;> rfl

/-- The id of an event. -/
def VerifierEvent.id : VerifierEvent → Nat
  | .startOfInput => 0
  | .verificationComplete => 1

theorem verifierEvent_eq_some {id : Nat} {event : VerifierEvent}
    (h : verifierEvent id = some event) : id = event.id := by
  unfold verifierEvent at h
  split at h <;> cases h <;> rfl

variable {update : Update VerifierState} {message reply : MrcpMessage}

section Moves

variable {machine : VerifierStateMachine} {message : MrcpMessage}

theorem responseDispatch_eq {State : Type} {machine : StateMachine State}
    (hon : machine.active = true) (message : MrcpMessage) :
    responseDispatch machine message =
      ⟨{ machine with activeRequest := none }, [.onDispatch message], true⟩ := by
  unfold responseDispatch
  rw [hon]
  rfl

section

variable (hon : machine.active = true)
include hon

/-- A request that is not valid in the state. -/
theorem VerifierMove.refused :
    VerifierMove machine message (responseDispatch machine (methodNotValid message)).machine
      (responseDispatch machine (methodNotValid message)).callbacks := by
  rw [responseDispatch_eq hon]
  refine .replied _ (mrcpResponseCreate_spec message).1 fun hstatus => ?_
  exact absurd hstatus (by simp [Successful, methodNotValid, statusCodeMethodNotValid,
    statusCodeSuccess])

/-- The handlers that only look at the state. -/
theorem VerifierMove.requestUnless (invalid : List VerifierState)
    (htype : message.startLine.messageType = .request)
    (hmethod : message.startLine.methodId ∉ verifyMethods) :
    VerifierMove machine message (verifierRequestUnless invalid machine message).machine
      (verifierRequestUnless invalid machine message).callbacks := by
  unfold verifierRequestUnless
  split
  · exact .refused hon
  · exact .dispatched machine.properties htype hmethod

theorem verifierMove_request (htype : message.startLine.messageType = .request) :
    VerifierMove machine message (verifierRequestStateUpdate machine message).machine
      (verifierRequestStateUpdate machine message).callbacks := by
  unfold verifierRequestStateUpdate
  cases hmethod : verifierMethod message.startLine.methodId with
  | none => exact .ignored
  | some method =>
    have hid := verifierMethod_eq_some hmethod
    cases method with
    | setParams => exact .dispatched _ htype (by rw [hid]; decide)
    | getParams | verifyRollback | clearBuffer =>
      exact .dispatched machine.properties htype (by rw [hid]; decide)
    | startSession | endSession | queryVoiceprint | deleteVoiceprint | startInputTimers
    | getIntermidiateResult => exact .requestUnless hon _ htype (by rw [hid]; decide)
    | verify | verifyFromBuffer =>
      dsimp only [verifierRequestVerify]
      split
      · exact .refused hon
      · next hstate =>
        refine .verifyDispatched htype (by rw [hid]; decide) ?_
        cases h : machine.state <;> simp_all
    | stop =>
      dsimp only [verifierRequestStop]
      split
      · exact .refused hon
      · next hstate =>
        rw [responseDispatch_eq hon]
        obtain ⟨hreply, -, hreplyMethod, -⟩ := mrcpResponseCreate_spec message
        exact .replied _ hreply fun _ => ⟨hreplyMethod.trans hid, by rw [hstate]; decide⟩
      · exact .dispatched machine.properties htype (by rw [hid]; decide)

theorem verifierMove_response (memory : Nat → UInt8)
    (htype : message.startLine.messageType = .response) :
    Gives (VerifierMove machine message) (verifierResponseStateUpdate memory machine message) := by
  refine matched_cases (fun _ => .ok .ignored) fun active hactive hids => ?_
  have hanswers : Answers machine message active := ⟨hactive, hids⟩
  cases hmethod : verifierMethod message.startLine.methodId with
  | none => exact .ok .ignored
  | some method =>
    have hid := verifierMethod_eq_some hmethod
    cases method with
    | setParams | queryVoiceprint | deleteVoiceprint | verifyRollback | clearBuffer
    | startInputTimers | getIntermidiateResult =>
      refine .ok ?_
      rw [responseDispatch_eq hon]
      exact .answered active message hanswers htype (by rw [hid]; decide)
    | getParams =>
      refine .ok ?_
      unfold verifierResponseGetParams getParams
      rw [responseDispatch_eq hon]
      refine .answered active _ hanswers htype ?_
      rw [hid]
      decide
    | startSession =>
      refine .ok ?_
      unfold verifierResponseStartSession
      rw [responseDispatch_eq (by exact hon)]
      exact .opened active hanswers htype hid
    | endSession =>
      refine .ok ?_
      unfold verifierResponseEndSession
      rw [responseDispatch_eq (by exact hon)]
      exact .closed active hanswers htype hid
    | verify | verifyFromBuffer =>
      refine .ok ?_
      unfold verifierResponseVerify
      rw [responseDispatch_eq (by exact hon)]
      exact .verifying active hanswers htype (by rw [hid]; decide)
    | stop =>
      refine .bind fun reply hreply => .ok ?_
      obtain ⟨verify, hstored, hline⟩ := reportInProgress_ok hreply
      rw [responseDispatch_eq (by exact hon)]
      refine .stopped active verify reply hanswers hstored ?_ ?_
      · rw [hline]
        exact htype
      · rw [hline]
        exact hid

theorem verifierMove_event (htype : message.startLine.messageType = .event) :
    Gives (VerifierMove machine message) (verifierEventStateUpdate machine message) := by
  unfold verifierEventStateUpdate
  cases hevent : verifierEvent message.startLine.methodId with
  | none => exact .ok .ignored
  | some event =>
    have hid := verifierEvent_eq_some hevent
    cases event with
    | startOfInput =>
      refine .ok (matched_cases (P := fun u : Update _ => VerifierMove machine message u.machine
        u.callbacks)
        (fun _ => .ignored) fun verify hstored hids => ?_)
      rw [eventDispatch_eq, if_pos hon]
      exact .began (setRequestState message .inProgress) htype
        (hid.trans_ne (by decide))
    | verificationComplete =>
      refine matched_cases (fun _ => .ok .ignored) fun verify hstored hids => ?_
      split
      · exact .ok .ignored
      · next hstop =>
        refine .bind fun event hevent => .ok ?_
        rw [eventDispatch_eq, if_pos (by exact hon)]
        exact .completed verify event hstored htype hid hids (completionCauseDefault_ok hevent)
          (Bool.not_eq_true _ ▸ hstop)

theorem verifierStateUpdate_move (memory : Nat → UInt8) :
    Gives (VerifierMove machine message) (verifierStateUpdate memory machine message) := by
  unfold verifierStateUpdate
  cases htype : message.startLine.messageType with
  | request => exact .ok (verifierMove_request hon htype)
  | response => exact verifierMove_response hon memory htype
  | event => exact verifierMove_event hon htype
  | unknown => exact .ok .ignored

end

end Moves

/-! ## What the client sees -/

/-- The history of a verifier: the VERIFY and VERIFY-FROM-BUFFER requests of the
client, whether a session that the engine has accepted is open, the
verifications that it has accepted and that have not ended, and the
VERIFICATION-COMPLETE events that the client has got. -/
structure VerifyLog where
  requests : List UInt32
  session : Bool
  running : List UInt32
  completions : List UInt32
  deriving Repr, DecidableEq

namespace VerifyLog

/-- A request of the client. -/
def receive (log : VerifyLog) (message : MrcpMessage) : VerifyLog :=
  if message.startLine.messageType = .request ∧ message.startLine.methodId ∈ verifyMethods then
    { log with requests := log.requests ++ [message.requestId] }
  else log

/-- A response to the client. -/
def respond (log : VerifyLog) (message : MrcpMessage) : VerifyLog :=
  if ¬Successful message then log
  else if message.startLine.methodId = verifierStartSession then { log with session := true }
  else if message.startLine.methodId = verifierEndSession then
    { log with session := false, running := [] }
  else if message.startLine.methodId = verifierStop then { log with running := [] }
  else if message.startLine.methodId ∈ verifyMethods ∧
      message.startLine.requestState = .inProgress then
    { log with running := log.running ++ [message.requestId] }
  else log

/-- An event to the client. -/
def report (log : VerifyLog) (message : MrcpMessage) : VerifyLog :=
  if message.startLine.methodId = verifierVerificationComplete then
    { log with
      running := log.running.filter (fun id => id ≠ message.requestId)
      completions := log.completions ++ [message.requestId] }
  else log

def note (log : VerifyLog) : Callback → VerifyLog
  | .onDeactivate => log
  | .onDispatch message =>
    match message.startLine.messageType with
    | .response => log.respond message
    | .event => log.report message
    | .request | .unknown => log

end VerifyLog

/-- A verifier under observation. -/
def verifier : Observed VerifierState Received VerifyLog where
  outcome machine input := verifierStateUpdate input.memory machine input.message
  note log input callbacks := callbacks.foldl VerifyLog.note (log.receive input.message)

def verifierStart (version : MrcpVersion) : Observation VerifierState VerifyLog :=
  ⟨mrcpVerifierStateMachineCreate version, ⟨[], false, [], []⟩, none⟩

/-! ## Runs -/

/-- The state is VERIFYING only while a verification that the engine has accepted
is in progress, and not IDLE only in a session that it has accepted; and there
are no more completions than requests. -/
structure VerificationValid (w : Observation VerifierState VerifyLog) : Prop where
  verifying : w.machine.state = .verifying → w.log.running ≠ []
  session : w.machine.state ≠ .idle → w.log.session = true
  once : ∀ id, w.log.completions.count id ≤ w.log.requests.count id

/-- The engine accepts START-SESSION and VERIFY when it answers them, and a VERIFY
response answers a VERIFY. -/
def AnswerAccepts (w : Observation VerifierState VerifyLog) (message : MrcpMessage) : Prop :=
  message.startLine.messageType = .response →
    ∀ active ∈ w.machine.activeRequest, active.requestId = message.requestId →
      (message.startLine.methodId = verifierStartSession → Successful message) ∧
      (message.startLine.methodId ∈ verifyMethods → Successful message ∧
        message.startLine.requestState = .inProgress ∧
        active.startLine.methodId ∈ verifyMethods)

instance (w : Observation VerifierState VerifyLog) (message : MrcpMessage) :
    Decidable (AnswerAccepts w message) :=
  inferInstanceAs (Decidable (_ → ∀ active ∈ w.machine.activeRequest, _ → _))

/-- The completion of the stored VERIFY comes while it is in progress. -/
def CompletionTimely (w : Observation VerifierState VerifyLog) (message : MrcpMessage) : Prop :=
  message.startLine.messageType = .event →
    message.startLine.methodId = verifierVerificationComplete →
    waitsForStop w.machine verifierStop = false →
    ∀ verify ∈ w.machine.inProgress, verify.requestId = message.requestId →
      w.machine.state = .verifying

instance (w : Observation VerifierState VerifyLog) (message : MrcpMessage) :
    Decidable (CompletionTimely w message) :=
  inferInstanceAs (Decidable (_ → _ → _ → ∀ verify ∈ w.machine.inProgress, _ → _))

/-- What the engine has to do. -/
def EngineAccepts (w : Observation VerifierState VerifyLog) (input : Received) : Prop :=
  AnswerAccepts w input.message ∧ CompletionTimely w input.message

instance (w : Observation VerifierState VerifyLog) (input : Received) :
    Decidable (EngineAccepts w input) :=
  inferInstanceAs (Decidable (_ ∧ _))

/-- The verification that may still complete: the one in progress, or the one
that is at the engine. -/
def pendingIds (machine : VerifierStateMachine) : List UInt32 :=
  if machine.state = .verifying then (machine.inProgress.map MrcpMessage.requestId).toList
  else
    ((machine.activeRequest.filter (fun active => active.startLine.methodId ∈ verifyMethods)).map
      MrcpMessage.requestId).toList

/-- The invariant: a VERIFY at the engine is the stored one, and each completion
has a request other than the one that may still complete. -/
structure VerifierInv (w : Observation VerifierState VerifyLog) : Prop where
  on : w.machine.active = true
  verifying : w.machine.state = .verifying → w.log.running ≠ []
  session : w.machine.state ≠ .idle → w.log.session = true
  idle : w.machine.state = .idle → w.machine.inProgress = none
  verify : ∀ active, w.machine.activeRequest = some active →
    active.startLine.methodId ∈ verifyMethods →
      w.machine.state = .opened ∧ w.machine.inProgress = some active
  pending : ∀ id, w.log.completions.count id + (pendingIds w.machine).count id ≤
    w.log.requests.count id

theorem VerifierInv.valid {w : Observation VerifierState VerifyLog} (h : VerifierInv w) :
    VerificationValid w :=
  ⟨h.verifying, h.session, fun id => by have := h.pending id; omega⟩

theorem verifierInv_start (version : MrcpVersion) : VerifierInv (verifierStart version) where
  on := rfl
  verifying := nofun
  session := fun h => absurd rfl h
  idle := fun _ => rfl
  verify := fun _ hactive => absurd hactive
    (by simp [verifierStart, mrcpVerifierStateMachineCreate])
  pending := fun id => by simp [verifierStart, mrcpVerifierStateMachineCreate, pendingIds]

namespace VerifyLog

theorem receive_frame (log : VerifyLog) (message : MrcpMessage) :
    (log.receive message).session = log.session ∧ (log.receive message).running = log.running ∧
      (log.receive message).completions = log.completions ∧
      ∀ id, log.requests.count id ≤ (log.receive message).requests.count id := by
  unfold receive
  split
  · exact ⟨rfl, rfl, rfl, fun id => List.Sublist.count_le id (List.sublist_append_left _ _)⟩
  · exact ⟨rfl, rfl, rfl, fun id => Nat.le_refl _⟩

theorem respond_frame (log : VerifyLog) (message : MrcpMessage) :
    (log.respond message).requests = log.requests ∧
      (log.respond message).completions = log.completions := by
  unfold respond
  split_ifs <;> exact ⟨rfl, rfl⟩

/-- The responses that do not change what is known of the session. -/
theorem respond_session {log : VerifyLog}
    (h : Successful message → message.startLine.methodId ≠ verifierStartSession ∧
      message.startLine.methodId ≠ verifierEndSession) :
    (log.respond message).session = log.session := by
  unfold respond
  split_ifs with hstatus hstart hend
  · exact absurd hstart (h hstatus).1
  · exact absurd hend (h hstatus).2
  · rfl
  · rfl
  · rfl
  · rfl

theorem respond_other (log : VerifyLog) (h : message.startLine.methodId ∉ stateMethods) :
    log.respond message = log := by
  simp only [stateMethods, List.mem_cons, not_or] at h
  obtain ⟨hstart, hend, hstop, hverify⟩ := h
  have hinner : ¬(message.startLine.methodId ∈ verifyMethods ∧
      message.startLine.requestState = .inProgress) := fun h => hverify h.1
  simp [respond, hstart, hend, hstop, hinner]

end VerifyLog

/-- The machine gives up what is at the engine, or replaces it by a request other
than VERIFY: what was pending is still so or is given up. -/
theorem count_pendingIds_le (machine : VerifierStateMachine) (active : Option MrcpMessage)
    (properties : MessageHeader)
    (hactive : ∀ request, active = some request →
      request.startLine.methodId ∉ verifyMethods) (id : UInt32) :
    (pendingIds { machine with activeRequest := active, properties := properties }).count id ≤
      (pendingIds machine).count id := by
  unfold pendingIds
  split
  · exact Nat.le_refl _
  · have hnone : active.filter
        (fun request => request.startLine.methodId ∈ verifyMethods) = none := by
      cases active with
      | none => rfl
      | some request => simp [hactive request rfl]
    rw [hnone]
    exact Nat.zero_le _

section Steps

variable {w : Observation VerifierState VerifyLog}

section

variable (h : VerifierInv w)
include h

/-- A request of the client is written down. -/
theorem VerifierInv.receive (message : MrcpMessage) :
    VerifierInv ⟨w.machine, w.log.receive message, none⟩ := by
  obtain ⟨hsame, hrunning, hcompletions, hrequests⟩ := w.log.receive_frame message
  refine ⟨h.on, ?_, ?_, h.idle, h.verify, fun id => ?_⟩
  · rw [hrunning]
    exact h.verifying
  · rw [hsame]
    exact h.session
  · rw [hcompletions]
    exact (h.pending id).trans (hrequests id)

/-- A request other than VERIFY goes to the engine. -/
theorem VerifierInv.dispatched {request : MrcpMessage} (properties : MessageHeader)
    (hmethod : request.startLine.methodId ∉ verifyMethods) :
    VerifierInv ⟨{ w.machine with activeRequest := some request, properties := properties },
      w.log, none⟩ := by
  have hother : ∀ active, some request = some active →
      active.startLine.methodId ∉ verifyMethods := by
    intro active hactive
    cases hactive
    exact hmethod
  refine ⟨h.on, h.verifying, h.session, h.idle, ?_, fun id => ?_⟩
  · exact fun active hactive hmem => absurd hmem (hother active hactive)
  · have hle := count_pendingIds_le w.machine (some request) properties hother id
    exact (Nat.add_le_add_left hle _).trans (h.pending id)

/-- A response that leaves the state as it is. -/
theorem VerifierInv.passed
    (hstatus : Successful reply → reply.startLine.methodId ≠ verifierStartSession ∧
      reply.startLine.methodId ≠ verifierEndSession)
    (hrunning : w.machine.state = .verifying → (w.log.respond reply).running ≠ []) :
    VerifierInv ⟨{ w.machine with activeRequest := none }, w.log.respond reply, none⟩ := by
  obtain ⟨hrequests, hcompletions⟩ := w.log.respond_frame reply
  refine ⟨h.on, hrunning, ?_, h.idle, fun _ hsome => absurd hsome (by simp), fun id => ?_⟩
  · rw [VerifyLog.respond_session hstatus]
    exact h.session
  · have hle := count_pendingIds_le w.machine none w.machine.properties (by simp) id
    rw [hrequests, hcompletions]
    exact (Nat.add_le_add_left hle _).trans (h.pending id)

/-- A response behind which the machine is in another state than VERIFYING. -/
theorem VerifierInv.settled {state : VerifierState} {stored : Option MrcpMessage}
    (hstate : state ≠ .verifying)
    (hsession : state ≠ .idle → (w.log.respond reply).session = true)
    (hidle : state = .idle → stored = none) :
    VerifierInv ⟨{ w.machine with state := state, inProgress := stored, activeRequest := none },
      w.log.respond reply, none⟩ := by
  obtain ⟨hrequests, hcompletions⟩ := w.log.respond_frame reply
  refine ⟨h.on, fun h => absurd h hstate, hsession, hidle, fun _ hsome => absurd hsome (by simp),
    fun id => ?_⟩
  have hnone : pendingIds { w.machine with
      state := state, inProgress := stored, activeRequest := none } = [] := by
    simp [pendingIds, hstate]
  have hpending := h.pending id
  rw [hrequests, hcompletions, hnone]
  simp only [List.count_nil]
  omega

/-- A VERIFY goes to the engine, and is stored. -/
theorem VerifierInv.verifyDispatched (htype : message.startLine.messageType = .request)
    (hmethod : message.startLine.methodId ∈ verifyMethods) (hstate : w.machine.state = .opened) :
    VerifierInv
      ⟨{ w.machine with activeRequest := some message, inProgress := some message },
        w.log.receive message, none⟩ := by
  have hreceived := h.receive message
  obtain ⟨-, -, hcompletions, -⟩ := w.log.receive_frame message
  refine ⟨h.on, hreceived.verifying, hreceived.session, ?_, ?_, fun id => ?_⟩
  · exact fun hidle => nomatch hstate.symm.trans hidle
  · intro active hactive _
    cases hactive
    exact ⟨hstate, rfl⟩
  · have hids : pendingIds { w.machine with
        activeRequest := some message, inProgress := some message } = [message.requestId] := by
      simp [pendingIds, hmethod]
    have hpending := h.pending id
    rw [hids, hcompletions, VerifyLog.receive, if_pos ⟨htype, hmethod⟩, List.count_append]
    omega

/-- The engine accepts the VERIFY. -/
theorem VerifierInv.accepted {active : MrcpMessage}
    (hactive : w.machine.activeRequest = some active)
    (hverify : active.startLine.methodId ∈ verifyMethods)
    (hmethod : reply.startLine.methodId ∈ verifyMethods) (hstatus : Successful reply)
    (hprogress : reply.startLine.requestState = .inProgress) :
    VerifierInv ⟨{ w.machine with state := .verifying, activeRequest := none },
      w.log.respond reply, none⟩ := by
  obtain ⟨hopened, hstored⟩ := h.verify active hactive hverify
  have hne : ∀ method, method ∉ verifyMethods → reply.startLine.methodId ≠ method := by
    intro method hmem heq
    exact hmem (heq ▸ hmethod)
  have hlog : w.log.respond reply =
      { w.log with running := w.log.running ++ [reply.requestId] } := by
    rw [VerifyLog.respond, if_neg (not_not.mpr hstatus), if_neg (hne _ (by decide)),
      if_neg (hne _ (by decide)), if_neg (hne _ (by decide)), if_pos ⟨hmethod, hprogress⟩]
  rw [hlog]
  refine ⟨h.on, ?_, ?_, fun hidle => (nomatch hidle), fun _ hsome => absurd hsome (by simp),
    fun id => ?_⟩
  · simp
  · exact fun _ => h.session (by rw [hopened]; decide)
  · have hbefore : pendingIds w.machine = [active.requestId] := by
      simp [pendingIds, hopened, hactive, hverify]
    have hbehind : pendingIds { w.machine with state := .verifying, activeRequest := none } =
        [active.requestId] := by
      simp [pendingIds, hstored]
    have hpending := h.pending id
    rw [hbefore] at hpending
    rwa [hbehind]

/-- The verification in progress completes. -/
theorem VerifierInv.completed {verify event : MrcpMessage}
    (hstored : w.machine.inProgress = some verify) (hstate : w.machine.state = .verifying)
    (hmethod : event.startLine.methodId = verifierVerificationComplete)
    (hid : verify.requestId = event.requestId) :
    VerifierInv ⟨{ w.machine with state := .opened }, w.log.report event, none⟩ := by
  have hother : ∀ active, w.machine.activeRequest = some active →
      active.startLine.methodId ∉ verifyMethods := by
    intro active hactive hverify
    exact nomatch hstate.symm.trans (h.verify active hactive hverify).1
  rw [VerifyLog.report, if_pos hmethod]
  refine ⟨h.on, fun hverifying => (nomatch hverifying), ?_, fun hidle => (nomatch hidle), ?_,
    fun id => ?_⟩
  · exact fun _ => h.session (by rw [hstate]; decide)
  · exact fun active hactive hverify => absurd hverify (hother active hactive)
  · have hbefore : pendingIds w.machine = [event.requestId] := by
      simp [pendingIds, hstate, hstored, hid]
    have hbehind : pendingIds { w.machine with state := .opened } = [] := by
      cases hactive : w.machine.activeRequest with
      | none => simp [pendingIds, hactive]
      | some active => simp [pendingIds, hactive, hother active hactive]
    have hpending := h.pending id
    rw [hbefore] at hpending
    rw [hbehind, List.count_append, List.count_nil]
    omega

/-- One message. -/
theorem VerifierInv.move {input : Received} (hengine : EngineAccepts w input)
    {machine : VerifierStateMachine} {callbacks : List Callback}
    (hmove : VerifierMove w.machine input.message machine callbacks) :
    VerifierInv ⟨machine, callbacks.foldl VerifyLog.note (w.log.receive input.message), none⟩ := by
  have hreceived := h.receive input.message
  -- the calls pass on one message at most
  have hnote : ∀ log message, [Callback.onDispatch message].foldl VerifyLog.note log =
      match message.startLine.messageType with
      | .response => log.respond message
      | .event => log.report message
      | .request | .unknown => log := fun _ _ => rfl
  cases hmove with
  | ignored => exact hreceived
  | dispatched properties htype hmethod =>
    rw [hnote, htype]
    exact hreceived.dispatched properties hmethod
  | verifyDispatched htype hmethod hstate =>
    rw [hnote, htype]
    exact h.verifyDispatched htype hmethod hstate
  | replied reply htype hstatus =>
    rw [hnote, htype]
    refine hreceived.passed (fun hok => ?_) (fun hstate => ?_)
    · rw [(hstatus hok).1]
      decide
    · have hrefused : ¬Successful reply := fun hok => (hstatus hok).2 hstate
      rw [VerifyLog.respond, if_pos hrefused]
      exact hreceived.verifying hstate
  | answered active reply hactive htype hmethod =>
    rw [hnote, htype]
    refine hreceived.passed (fun _ => ⟨?_, ?_⟩) (fun hstate => ?_)
    · exact fun h => hmethod (by rw [h]; decide)
    · exact fun h => hmethod (by rw [h]; decide)
    · rw [VerifyLog.respond_other _ hmethod]
      exact hreceived.verifying hstate
  | opened active hactive htype hmethod =>
    have hstatus := (hengine.1 htype active hactive.1 hactive.2).1 hmethod
    rw [hnote, htype]
    refine hreceived.settled (by decide) (fun _ => ?_) (fun h => (nomatch h))
    rw [VerifyLog.respond, if_neg (not_not.mpr hstatus), if_pos hmethod]
  | closed active hactive htype hmethod =>
    rw [hnote, htype]
    exact hreceived.settled (by decide) (fun h => absurd rfl h) (fun _ => rfl)
  | verifying active hactive htype hmethod =>
    obtain ⟨hstatus, hprogress, hverify⟩ :=
      (hengine.1 htype active hactive.1 hactive.2).2 hmethod
    rw [hnote, htype]
    exact hreceived.accepted hactive.1 hverify hmethod hstatus hprogress
  | stopped active verify reply hactive hstored htype hmethod =>
    rw [hnote, htype]
    refine hreceived.settled (by decide) (fun _ => ?_) (fun h => (nomatch h))
    rw [VerifyLog.respond_session (fun _ => by rw [hmethod]; decide)]
    refine hreceived.session fun hidle => ?_
    exact nomatch hstored.symm.trans (hreceived.idle hidle)
  | began event htype hmethod =>
    rw [hnote, htype]
    dsimp only
    rw [VerifyLog.report, if_neg hmethod]
    exact hreceived
  | completed verify event hstored htype hmethod hid hline hstop =>
    have hstate := hengine.2 htype hmethod hstop verify hstored hid
    rw [hnote, hline, htype]
    refine hreceived.completed hstored hstate (by rw [hline]; exact hmethod) ?_
    exact hid.trans (congrArg StartLine.requestId hline.symm)

end

end Steps

/-- The states of the verifier mean what they say, and no VERIFY completes twice,
in every run in which the engine accepts what it answers and completes a
verification while it is in progress. -/
theorem verification_valid (version : MrcpVersion) (inputs : List Received)
    (h : Runs.Along verifier.step EngineAccepts (verifierStart version) inputs) :
    Runs.Always verifier.step VerificationValid (verifierStart version) inputs := by
  have hinv := Runs.always_of_along ?_ inputs _ (verifierInv_start version) h
  · exact hinv.mono (fun w hw => hw.valid)
  · intro w input w' hI hP hstep
    rcases Observed.step_cases hstep with ⟨update, hupdate, rfl⟩ | ⟨pointer, -, rfl⟩
    · exact hI.move hP (verifierStateUpdate_move hI.on _ _ hupdate)
    · exact ⟨hI.on, hI.verifying, hI.session, hI.idle, hI.verify, hI.pending⟩

def verifierRequest := clientRequest .verifier

/-- The response to a request that the engine refuses. -/
def refusal (request : MrcpMessage) : MrcpMessage :=
  let response := mrcpResponseCreate request
  { response with
    startLine := { response.startLine with statusCode := statusCodeMethodFailed } }

/-- A session in which a verification completes and one is stopped. -/
def verifiedSession : List Received :=
  [received (verifierRequest 2 1), received (mrcpResponseCreate (verifierRequest 2 1)),
   received (verifierRequest 6 2), received (inProgress (verifierRequest 6 2)),
   received (mrcpEventCreate (verifierRequest 6 2) 1),
   received (verifierRequest 7 3), received (inProgress (verifierRequest 7 3)),
   received (verifierRequest 9 4), received (mrcpResponseCreate (verifierRequest 9 4)),
   received (verifierRequest 3 5), received (mrcpResponseCreate (verifierRequest 3 5))]

theorem verification_valid_verifiedSession :
    Runs.Along verifier.step EngineAccepts (verifierStart .v2) verifiedSession ∧
      Runs.Always verifier.step VerificationValid (verifierStart .v2) verifiedSession :=
  ⟨by decide +kernel, verification_valid .v2 verifiedSession (by decide +kernel)⟩

/-- The engine refuses the session. -/
def refusedSession : List Received :=
  [received (verifierRequest 2 1), received (refusal (verifierRequest 2 1))]

/-- The engine refuses the verification. -/
def refusedVerify : List Received :=
  [received (verifierRequest 2 1), received (mrcpResponseCreate (verifierRequest 2 1)),
   received (verifierRequest 6 2), received (refusal (verifierRequest 6 2))]

/-- The engine reports the completion twice. -/
def completedTwice : List Received :=
  [received (verifierRequest 2 1), received (mrcpResponseCreate (verifierRequest 2 1)),
   received (verifierRequest 6 2), received (inProgress (verifierRequest 6 2)),
   received (mrcpEventCreate (verifierRequest 6 2) 1),
   received (mrcpEventCreate (verifierRequest 6 2) 1)]

theorem refused_verifier_proceeds :
    (¬Runs.Always verifier.step VerificationValid (verifierStart .v2) refusedSession ∧
      ∃ w, Runs.after verifier.step (verifierStart .v2) refusedSession = some w ∧
        w.machine.state = .opened ∧ w.log.session = false) ∧
    (¬Runs.Always verifier.step VerificationValid (verifierStart .v2) refusedVerify ∧
      ∃ w, Runs.after verifier.step (verifierStart .v2) refusedVerify = some w ∧
        w.machine.state = .verifying ∧ w.log.running = []) ∧
    (¬Runs.Always verifier.step VerificationValid (verifierStart .v2) completedTwice ∧
      ∃ w, Runs.after verifier.step (verifierStart .v2) completedTwice = some w ∧
        w.log.requests = [2] ∧ w.log.completions = [2, 2]) := by
  refine ⟨⟨?_, _, rfl, by decide +kernel, by decide +kernel⟩,
    ⟨?_, _, rfl, by decide +kernel, by decide +kernel⟩,
    ⟨?_, _, rfl, by decide +kernel, by decide +kernel⟩⟩
  · intro h
    exact absurd ((h.after rfl).session (by decide +kernel)) (by decide +kernel)
  · intro h
    exact (h.after rfl).verifying (by decide +kernel) (by decide +kernel)
  · intro h
    exact absurd ((h.after rfl).once 2) (by decide +kernel)

end UniMrcp.Engine
