import UniMrcp.Engine.Observed
import UniMrcp.Server.Progress
import UniMrcp.Transport.ServerAgent

/-!
# Responses and events of a client

Responses and events are for the engine of a channel to send.  A client may
send them as well: the connection agent looks at the channel of a message and
not at its type, and so does the session, so the state machine takes them for
those of the engine.  `Ignored` says which ones have no effect.
-/

namespace UniMrcp.Server

open UniMrcp.Lib UniMrcp.Lib.Runs UniMrcp.Apt UniMrcp.Mrcp UniMrcp.Engine
open UniMrcp.Transport.ServerAgent (Agent Place Handled mrcpServerMessageHandler
  mrcpConnectionChannelAssociate)

/-- What a state machine works on. -/
structure SameWork {State : Type} (machine machine' : StateMachine State) : Prop where
  state : machine'.state = machine.state
  inProgress : machine'.inProgress = machine.inProgress
  activeRequest : machine'.activeRequest = machine.activeRequest
  queue : machine'.queue = machine.queue

instance decidableSameWork {State : Type} [DecidableEq State]
    (machine machine' : StateMachine State) : Decidable (SameWork machine machine') :=
  decidable_of_iff (machine'.state = machine.state ∧ machine'.inProgress = machine.inProgress ∧
      machine'.activeRequest = machine.activeRequest ∧ machine'.queue = machine.queue)
    ⟨fun ⟨h, h', h'', h'''⟩ => ⟨h, h', h'', h'''⟩,
      fun h => ⟨h.state, h.inProgress, h.activeRequest, h.queue⟩⟩

def Machine.SameWork : Machine → Machine → Prop
  | .recognizer machine, .recognizer machine' => Server.SameWork machine machine'
  | .synthesizer machine, .synthesizer machine' => Server.SameWork machine machine'
  | .recorder machine, .recorder machine' => Server.SameWork machine machine'
  | .verifier machine, .verifier machine' => Server.SameWork machine machine'
  | _, _ => False

instance decidableMachineSameWork : (machine machine' : Machine) →
    Decidable (machine.SameWork machine')
  | .recognizer _, .recognizer _ | .synthesizer _, .synthesizer _ | .recorder _, .recorder _
  | .verifier _, .verifier _ => inferInstanceAs (Decidable (Server.SameWork _ _))
  | .recognizer _, .synthesizer _ | .recognizer _, .recorder _ | .recognizer _, .verifier _
  | .synthesizer _, .recognizer _ | .synthesizer _, .recorder _ | .synthesizer _, .verifier _
  | .recorder _, .recognizer _ | .recorder _, .synthesizer _ | .recorder _, .verifier _
  | .verifier _, .recognizer _ | .verifier _, .synthesizer _ | .verifier _, .recorder _ =>
    isFalse id

def Callback.isDispatch : Callback → Bool
  | .onDispatch _ => true
  | .onDeactivate => false

/-- The message changes nothing of what the machine works on, and nothing is
dispatched because of it. -/
def Undisturbed (memory : Nat → UInt8) (machine : Machine) (message : MrcpMessage) : Prop :=
  match machine.update memory message with
  | .error _ => False
  | .ok reaction => machine.SameWork reaction.machine ∧
      reaction.callbacks.any Callback.isDispatch = false ∧ reaction.pending = none

instance decidableUndisturbed (memory : Nat → UInt8) (machine : Machine) (message : MrcpMessage) :
    Decidable (Undisturbed memory machine message) := by
  unfold Undisturbed
  exact match machine.update memory message with
    | .error _ => inferInstanceAs (Decidable False)
    | .ok _ => inferInstanceAs (Decidable (_ ∧ _ ∧ _))

/-! ## What is ignored -/

section Ignored

variable {State : Type}

/-- The message names the request in progress. -/
def Names (machine : StateMachine State) (message : MrcpMessage) : Prop :=
  ∃ request, machine.inProgress = some request ∧ request.requestId = message.requestId

/-- The machine is in the given state with `active` in progress, if the
response says that it is in progress. -/
def Begun (machine : StateMachine State) (state : State) (active message : MrcpMessage) : Prop :=
  message.startLine.requestState = .inProgress →
    machine.state = state ∧ machine.inProgress = some active

/-- The responses that a recognizer ignores: those of another request or of an
unknown method, and the response to a request from the queue if it does not say
that the request has begun. -/
def recogIgnoresResponse (machine : RecogStateMachine) (message : MrcpMessage) : Prop :=
  ∀ active, machine.activeRequest = some active → active.requestId = message.requestId →
    message.startLine.methodId < recognizerMethodCount →
      recogMethod message.startLine.methodId = .recognize ∧ machine.isPending = true ∧
        Begun machine .recognizing active message

/-- The events that a recognizer ignores: those that do not belong to the
request in progress, those that cross a STOP, and what a machine that is being
deactivated does not pass on. -/
def recogIgnoresEvent (machine : RecogStateMachine) (message : MrcpMessage) : Prop :=
  match recogEvent message.startLine.methodId with
  | none => True
  | some .startOfInput => Names machine message → machine.active = false
  | some .recognitionComplete =>
    Names machine message → waitsForStop machine recognizerStop = false →
      (completionCauseDefault .recognizer message).isOk ∧ machine.active = false ∧
        machine.state = .recognized ∧ machine.queue = []
  | some .interpretationComplete =>
    (completionCauseDefault .recognizer message).isOk ∧ machine.active = false

/-- The responses that a synthesizer ignores. -/
def synthIgnoresResponse (machine : SynthStateMachine) (message : MrcpMessage) : Prop :=
  ∀ active, machine.activeRequest = some active → active.requestId = message.requestId →
    ∀ method, synthMethod message.startLine.methodId = some method →
      method = .speak ∧ machine.isPending = true ∧ machine.active = false ∧
        Begun machine .speaking active message

/-- The events that a synthesizer ignores. -/
def synthIgnoresEvent (machine : SynthStateMachine) (message : MrcpMessage) : Prop :=
  match synthEvent message.startLine.methodId with
  | none => True
  | some .speechMarker => Names machine message → machine.active = false
  | some .speakComplete => Names machine message → waitsForStop machine synthesizerStop = true

/-- The responses and events that a recognizer or a synthesizer ignores. -/
def Ignored (machine : Machine) (message : MrcpMessage) : Prop :=
  match machine, message.startLine.messageType with
  | .recognizer machine, .response => recogIgnoresResponse machine message
  | .recognizer machine, .event => recogIgnoresEvent machine message
  | .synthesizer machine, .response => synthIgnoresResponse machine message
  | .synthesizer machine, .event => synthIgnoresEvent machine message
  | _, _ => False

end Ignored

/-! ## Handlers -/

section Handlers

variable {State : Type} {machine machine' : StateMachine State} {message : MrcpMessage}
  {handle : MrcpMessage → Checked (Update State)}

/-- An update that changes nothing and dispatches nothing. -/
def Leaves (machine : StateMachine State) (update : Checked (Update State)) : Prop :=
  ∃ u, update = .ok u ∧ SameWork machine u.machine ∧ u.callbacks.any Callback.isDispatch = false

theorem leaves_ok {u : Update State} :
    Leaves machine (.ok u) ↔
      SameWork machine u.machine ∧ u.callbacks.any Callback.isDispatch = false := by
  constructor
  · rintro ⟨u', hu, h⟩
    cases hu
    exact h
  · exact fun h => ⟨u, rfl, h⟩

theorem leaves_unexpected : Leaves machine (.ok (unexpected machine)) :=
  leaves_ok.mpr ⟨⟨rfl, rfl, rfl, rfl⟩, rfl⟩

theorem not_leaves_error {pointer : NullPointer} : ¬ Leaves machine (.error pointer) := by
  rintro ⟨u, hu, -⟩
  cases hu

/-- A response to the active request clears it. -/
theorem not_leaves_responseDispatch {active : MrcpMessage}
    (hactive : machine.activeRequest = some active) :
    ¬ Leaves machine (.ok (responseDispatch machine' message)) := by
  intro h
  have := (leaves_ok.mp h).1.activeRequest
  rw [hactive] at this
  cases this

/-- A pending request is dispatched. -/
theorem leaves_processPending {update : Update State} :
    Leaves machine (.ok (processPending update)) ↔
      update.machine.queue = [] ∧ Leaves machine (.ok update) := by
  cases hqueue : update.machine.queue with
  | nil => simp [leaves_ok, processPending, hqueue]
  | cons pending queue =>
    simp [leaves_ok, processPending, hqueue, requestDispatch, Callback.isDispatch]

/-- A STOP response clears the active request, or dispatches the next one. -/
theorem not_leaves_stopped {active : MrcpMessage}
    (hactive : machine.activeRequest = some active) :
    ¬ Leaves machine (.ok (processPending (responseDispatch machine' message))) :=
  fun h => not_leaves_responseDispatch hactive (leaves_processPending.mp h).2

theorem leaves_eventDispatch : Leaves machine (.ok (eventDispatch machine' message)) ↔
    SameWork machine machine' ∧ machine'.active = false := by
  unfold eventDispatch
  cases machine'.active with
  | false => simp [leaves_ok]
  | true => simp [leaves_ok, Callback.isDispatch]

theorem SameWork.refl (machine : StateMachine State) : SameWork machine machine :=
  ⟨rfl, rfl, rfl, rfl⟩

/-- The handlers leave a message alone that does not belong to the request they
look for. -/
theorem leaves_matched {stored : Option MrcpMessage} :
    Leaves machine (match stored with
      | none => .ok (unexpected machine)
      | some request =>
        if request.requestId ≠ message.requestId then .ok (unexpected machine)
        else handle request) ↔
      ∀ request, stored = some request → request.requestId = message.requestId →
        Leaves machine (handle request) := by
  refine matched_cases (P := fun update => Leaves machine update ↔ _) (fun hnone => ?_)
    (fun request hrequest hid => ?_)
  · exact iff_of_true leaves_unexpected fun request hrequest hid =>
      absurd hid (hnone request hrequest)
  · subst hrequest
    simp [hid]

/-- The handlers of the events about the request in progress. -/
theorem leaves_named {P : Prop}
    (h : ∀ request, machine.inProgress = some request → (Leaves machine (handle request) ↔ P)) :
    Leaves machine (match machine.inProgress with
      | none => .ok (unexpected machine)
      | some request =>
        if request.requestId ≠ message.requestId then .ok (unexpected machine)
        else handle request) ↔ (Names machine message → P) := by
  rw [leaves_matched]
  constructor
  · rintro hleaves ⟨request, hrequest, hid⟩
    exact (h request hrequest).mp (hleaves request hrequest hid)
  · intro hP request hrequest hid
    exact (h request hrequest).mpr (hP ⟨request, hrequest, hid⟩)

/-- The handlers of the events that announce something about the request in
progress. -/
theorem leaves_marker :
    Leaves machine (.ok (match machine.inProgress with
      | none => unexpected machine
      | some request =>
        if request.requestId ≠ message.requestId then unexpected machine
        else eventDispatch machine (setRequestState message .inProgress))) ↔
      (Names machine message → machine.active = false) := by
  refine matched_cases (P := fun update => Leaves machine (.ok update) ↔ _) (fun hnone => ?_)
    (fun request hrequest hid => ?_)
  · exact iff_of_true leaves_unexpected fun ⟨request, hrequest, hid⟩ =>
      absurd hid (hnone request hrequest)
  · rw [leaves_eventDispatch]
    simp [SameWork.refl, Names, hrequest, hid]

/-- A handler that first does something that may fail. -/
theorem not_leaves_bind {α : Type} {x : Checked α} {f : α → Checked (Update State)}
    (h : ∀ a, ¬ Leaves machine (f a)) : ¬ Leaves machine (x >>= f) := by
  rintro ⟨u, hu, hleaves⟩
  obtain ⟨a, -, hu⟩ := Checked.bind_eq_ok.mp hu
  exact h a ⟨u, hu, hleaves⟩

theorem leaves_bind {α : Type} {x : Checked α} {f : α → Checked (Update State)} {P : Prop}
    (h : ∀ a, Leaves machine (f a) ↔ P) : Leaves machine (x >>= f) ↔ x.isOk ∧ P := by
  cases x with
  | error pointer => exact iff_of_false not_leaves_error (by simp [Except.toBool])
  | ok a => exact (h a).trans (by simp [Except.toBool])

end Handlers

/-! ## The recognizer -/

section Recognizer

variable {machine : RecogStateMachine} {message : MrcpMessage}

theorem leaves_recogResponseRecognize {active : MrcpMessage}
    (hactive : machine.activeRequest = some active) :
    Leaves machine (.ok (recogResponseRecognize machine active message)) ↔
      machine.isPending = true ∧ Begun machine .recognizing active message := by
  unfold recogResponseRecognize Begun
  by_cases hbegun : message.startLine.requestState = .inProgress
  · simp only [hbegun, true_implies]
    cases hpending : machine.isPending with
    | false =>
      exact iff_of_false (not_leaves_responseDispatch hactive) (by simp)
    | true =>
      simp only [if_true, true_and]
      rw [leaves_ok]
      constructor
      · exact fun h => ⟨h.1.state.symm, h.1.inProgress.symm⟩
      · exact fun h => ⟨⟨h.1.symm, h.2.symm, rfl, rfl⟩, rfl⟩
  · simp only [hbegun, if_false, false_implies, and_true]
    cases hpending : machine.isPending with
    | false => exact iff_of_false (not_leaves_responseDispatch hactive) (by simp)
    | true => exact iff_of_true (leaves_ok.mpr ⟨⟨rfl, rfl, rfl, rfl⟩, rfl⟩) rfl

theorem leaves_recogResponse (memory : Nat → UInt8) :
    Leaves machine (recogResponseStateUpdate memory machine message) ↔
      recogIgnoresResponse machine message := by
  refine leaves_matched.trans (forall₃_congr fun active hactive _ => ?_)
  by_cases hcount : message.startLine.methodId < recognizerMethodCount
  · simp only [Nat.not_le.mpr hcount, if_false, hcount]
    cases recogMethod message.startLine.methodId with
    | recognize =>
      rw [leaves_recogResponseRecognize hactive]
      simp
    | setParams | interpret | getResult | startInputTimers | other | getParams =>
      exact iff_of_false (not_leaves_responseDispatch hactive) (by simp)
    | defineGrammar =>
      exact iff_of_false (not_leaves_bind fun _ => not_leaves_responseDispatch hactive) (by simp)
    | stop =>
      refine iff_of_false (not_leaves_bind fun _ => not_leaves_bind fun _ => ?_) (by simp)
      exact not_leaves_stopped hactive
  · simp only [Nat.not_lt.mp hcount, hcount, false_implies]
    exact iff_of_true leaves_unexpected trivial

/-- The completion of a machine that passes the event on. -/
theorem leaves_recogCompleted (message : MrcpMessage) :
    Leaves machine (.ok (processPending (eventDispatch (recogStateChange machine .recognized)
      message))) ↔
      machine.active = false ∧ machine.state = .recognized ∧ machine.queue = [] := by
  rw [leaves_processPending, leaves_eventDispatch, eventDispatch_eq]
  constructor
  · exact fun ⟨hqueue, hsame, hactive⟩ => ⟨hactive, hsame.state.symm, hqueue⟩
  · exact fun ⟨hactive, hstate, hqueue⟩ => ⟨hqueue, ⟨hstate.symm, rfl, rfl, rfl⟩, hactive⟩

theorem leaves_recogEvent :
    Leaves machine (recogEventStateUpdate machine message) ↔ recogIgnoresEvent machine message := by
  unfold recogEventStateUpdate recogIgnoresEvent
  cases recogEvent message.startLine.methodId with
  | none => exact iff_of_true leaves_unexpected trivial
  | some event =>
    cases event with
    | startOfInput => exact leaves_marker
    | interpretationComplete =>
      exact leaves_bind fun _ => leaves_eventDispatch.trans (and_iff_right (.refl _))
    | recognitionComplete =>
      refine leaves_named fun request _ => ?_
      cases hstop : waitsForStop machine recognizerStop with
      | true => exact iff_of_true leaves_unexpected nofun
      | false =>
        simp only [true_implies]
        exact leaves_bind (fun message => leaves_recogCompleted message)

end Recognizer

/-! ## The synthesizer -/

section Synthesizer

variable {machine : SynthStateMachine} {message : MrcpMessage}

theorem leaves_synthResponseSpeak {active : MrcpMessage}
    (hactive : machine.activeRequest = some active) :
    Leaves machine (.ok (synthResponseSpeak machine active message)) ↔
      machine.isPending = true ∧ machine.active = false ∧
        Begun machine .speaking active message := by
  unfold synthResponseSpeak Begun
  by_cases hbegun : message.startLine.requestState = .inProgress
  · simp only [hbegun, true_implies, synthStateChange, stateChange]
    cases machine.isPending with
    | false => exact iff_of_false (not_leaves_responseDispatch hactive) (by simp)
    | true =>
      simp only [true_and]
      refine leaves_eventDispatch.trans ?_
      constructor
      · exact fun h => ⟨h.2, h.1.state.symm, h.1.inProgress.symm⟩
      · exact fun h => ⟨⟨h.2.1.symm, h.2.2.symm, rfl, rfl⟩, h.1⟩
  · simp only [hbegun, if_false]
    cases machine.isPending with
    | false => exact iff_of_false (not_leaves_responseDispatch hactive) (by simp)
    | true =>
      refine leaves_eventDispatch.trans ?_
      simp [show SameWork machine { machine with isPending := false } from ⟨rfl, rfl, rfl, rfl⟩]

theorem leaves_synthResponse (memory : Nat → UInt8) :
    Leaves machine (synthResponseStateUpdate memory machine message) ↔
      synthIgnoresResponse machine message := by
  refine leaves_matched.trans (forall₃_congr fun active hactive _ => ?_)
  cases synthMethod message.startLine.methodId with
  | none => exact iff_of_true leaves_unexpected (fun method h => by cases h)
  | some method =>
    cases method with
    | speak =>
      rw [leaves_synthResponseSpeak hactive]
      simp
    | setParams | defineLexicon | getParams =>
      exact iff_of_false (not_leaves_responseDispatch hactive) (by simp)
    | stop =>
      refine iff_of_false (not_leaves_bind fun _ => not_leaves_bind fun _ => ?_) (by simp)
      exact not_leaves_stopped hactive
    | bargeInOccurred =>
      refine iff_of_false (not_leaves_bind fun _ => not_leaves_bind fun _ => ?_) (by simp)
      exact not_leaves_responseDispatch hactive
    | control =>
      exact iff_of_false (not_leaves_bind fun _ => not_leaves_responseDispatch hactive) (by simp)
    | pause | resume =>
      refine iff_of_false ?_ (by simp)
      dsimp only [synthResponsePause, synthResponseResume, synthResponseToggle]
      split
      · exact not_leaves_bind fun _ => not_leaves_responseDispatch hactive
      · exact not_leaves_responseDispatch hactive

/-- The completion ends the request in progress, or the next one is
dispatched. -/
theorem not_leaves_synthCompleted {request : MrcpMessage}
    (hrequest : machine.inProgress = some request) (message : MrcpMessage) :
    ¬ Leaves machine (.ok (processPending (eventDispatch (synthStateChange machine .idle)
      message))) := by
  intro h
  have hsame := (leaves_eventDispatch.mp (leaves_processPending.mp h).2).1.inProgress
  rw [hrequest] at hsame
  cases hsame

theorem leaves_synthEvent :
    Leaves machine (synthEventStateUpdate machine message) ↔ synthIgnoresEvent machine message := by
  unfold synthEventStateUpdate synthIgnoresEvent
  cases synthEvent message.startLine.methodId with
  | none => exact iff_of_true leaves_unexpected trivial
  | some event =>
    cases event with
    | speechMarker => exact leaves_marker
    | speakComplete =>
      refine leaves_named fun request hrequest => ?_
      cases hstop : waitsForStop machine synthesizerStop with
      | true => exact iff_of_true leaves_unexpected rfl
      | false =>
        simp only [Bool.false_eq_true, iff_false]
        exact not_leaves_bind (fun message => not_leaves_synthCompleted hrequest message)

end Synthesizer

/-! ## The machine of a channel -/

/-- What the session sees of an update is all of it, or a pending request is
kept for later. -/
theorem reactionOf_cases {State : Type} (wrap : StateMachine State → Machine)
    (before : StateMachine State) (u : Update State) :
    reactionOf wrap before u = ⟨wrap u.machine, u.callbacks, none⟩ ∨
      u.callbacks.any Callback.isDispatch = true ∧ (reactionOf wrap before u).pending ≠ none := by
  unfold reactionOf
  split
  · next first pending hcallbacks =>
    split
    · exact .inr ⟨by simp [hcallbacks, Callback.isDispatch], by simp⟩
    · exact .inl rfl
  · exact .inl rfl

theorem undisturbed_iff_leaves {State : Type} {w : StateMachine State → Machine}
    {memory : Nat → UInt8} {message : MrcpMessage} {machine : StateMachine State}
    {update : Checked (Update State)}
    (hupdate : (w machine).update memory message =
      update >>= fun u => .ok (reactionOf w machine u))
    (hsame : ∀ machine', (w machine).SameWork (w machine') ↔ SameWork machine machine') :
    Undisturbed memory (w machine) message ↔ Leaves machine update := by
  rw [Undisturbed, hupdate]
  cases update with
  | error pointer => exact iff_of_false id not_leaves_error
  | ok u =>
    rw [leaves_ok]
    change (w machine).SameWork (reactionOf w machine u).machine ∧ _ ∧ _ ↔ _
    rcases reactionOf_cases w machine u with hreaction | ⟨hdispatch, hpending⟩
    · rw [hreaction]
      simp [hsame]
    · exact iff_of_false (fun h => hpending h.2.2) (fun h => by simp [hdispatch] at h)

/-- The machines of the two resources. -/
def Machine.isSpeech : Machine → Bool
  | .recognizer _ | .synthesizer _ => true
  | .recorder _ | .verifier _ => false

theorem undisturbed_iff_ignored (memory : Nat → UInt8) {machine : Machine} {message : MrcpMessage}
    (hmachine : machine.isSpeech = true)
    (htype : message.startLine.messageType = .response ∨
      message.startLine.messageType = .event) :
    Undisturbed memory machine message ↔ Ignored machine message := by
  cases machine with
  | recorder machine | verifier machine => cases hmachine
  | recognizer machine =>
    rw [undisturbed_iff_leaves rfl (fun _ => Iff.rfl)]
    rcases htype with htype | htype
    · simp only [recogStateUpdate, Ignored, htype]
      exact leaves_recogResponse memory
    · simp only [recogStateUpdate, Ignored, htype]
      exact leaves_recogEvent
  | synthesizer machine =>
    rw [undisturbed_iff_leaves rfl (fun _ => Iff.rfl)]
    rcases htype with htype | htype
    · simp only [synthStateUpdate, Ignored, htype]
      exact leaves_synthResponse memory
    · simp only [synthStateUpdate, Ignored, htype]
      exact leaves_synthEvent

/-- The handler passes a message on as it is. -/
theorem mrcpServerMessageHandler_receive {agent : Agent} {place : Place}
    {message message' : MrcpMessage} {i : Nat}
    (h : (mrcpServerMessageHandler agent place .complete (some message)).2 =
      .receive i message') : message' = message := by
  unfold mrcpServerMessageHandler at h
  dsimp only at h
  split at h
  · exact (Handled.receive.inj h).2.symm
  · cases h

/-- A response or an event of a client reaches the state machine of its
channel, and leaves the machine as it is if and only if the machine ignores
it. -/
theorem clientMessage_undisturbed_iff (profile : Profile) (plugin : Plugin) (s : Session)
    (agent : Agent) (place : Place) (message message' : MrcpMessage) (i : Nat) (machine : Machine)
    (hreceive : (mrcpServerMessageHandler agent place .complete (some message)).2 =
      .receive i message')
    (htype : message.startLine.messageType = .response ∨ message.startLine.messageType = .event)
    (hchannel : machineOf s i = some machine)
    (hmachine : machine.isSpeech = true) :
    mrcpServerSignalingMessageDispatch profile plugin s (.control (some i) message') =
        stateMachineUpdate profile plugin s i machine message ∧
      (Undisturbed plugin.memory machine message ↔ Ignored machine message) := by
  obtain rfl := mrcpServerMessageHandler_receive hreceive
  refine ⟨?_, undisturbed_iff_ignored plugin.memory hmachine htype⟩
  simp [mrcpServerSignalingMessageDispatch, mrcpServerOnMessageReceive_eq, receiver, hchannel]

/-- An agent with one connection and the channel of the session, which no
client has used yet. -/
def recognizerAgent : Agent :=
  let identifier := aptIdResourceGenerate (recogRequest 3 1).channelId.sessionId
    (recogRequest 3 1).channelId.resourceName 64
  ⟨some ⟨[(identifier, 0)], 1⟩, [⟨[], 0⟩], [⟨identifier, some .null⟩]⟩

theorem clientMessage_undisturbed_idle :
    ∃ s ∈ after (step recognizerProfile) mrcpServerSessionCreate sessionSetup,
      ∃ machine ∈ machineOf s 0, Ignored machine (mrcpResponseCreate (recogRequest 3 1)) := by
  have hidle : ∃ s ∈ after (step recognizerProfile) mrcpServerSessionCreate sessionSetup,
      ∃ machine ∈ machineOf s 0, machine.isSpeech = true ∧
        Undisturbed willingPlugin.memory machine (mrcpResponseCreate (recogRequest 3 1)) := by
    decide +kernel
  obtain ⟨s, hs, machine, hchannel, hmachine, hundisturbed⟩ := hidle
  refine ⟨s, hs, machine, hchannel, (clientMessage_undisturbed_iff recognizerProfile willingPlugin s
    recognizerAgent (.accepted 0) (mrcpResponseCreate (recogRequest 3 1))
    (mrcpResponseCreate (recogRequest 3 1)) 0 machine ?_ ?_ hchannel hmachine).2.mp hundisturbed⟩
  · decide +kernel
  · exact .inl (by decide +kernel)

/-- A client sends RECOGNITION-COMPLETE for its own RECOGNIZE, which the engine
has in progress: the recognizer takes it for the end of the recognition. -/
theorem clientEvent_completes :
    (mrcpServerMessageHandler recognizerAgent (.accepted 0) .complete
        (some (mrcpEventCreate (recogRequest 3 1) 1))).2 =
      .receive 0 (mrcpEventCreate (recogRequest 3 1) 1) ∧
    ∃ s ∈ after (step recognizerProfile) mrcpServerSessionCreate
        (sessionSetup ++ [(willingPlugin, .signal (.control (some 0) (recogRequest 3 1))),
          (willingPlugin, .engineMessage 0 (inProgress (recogRequest 3 1)))]),
      ∃ machine ∈ machineOf s 0,
        ¬ Undisturbed willingPlugin.memory machine (mrcpEventCreate (recogRequest 3 1) 1) := by
  decide +kernel

end UniMrcp.Server
