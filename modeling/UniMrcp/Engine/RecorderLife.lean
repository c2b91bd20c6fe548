import UniMrcp.Engine.Observed
import UniMrcp.Engine.Recorder
import UniMrcp.Engine.StopReport

/-!
# The life of a recording

A RECORD that the engine has accepted is ended once: by a RECORD-COMPLETE event
or a STOP response that the client gets, or by the end of the session.

* `RecorderMove` lists what one message can do to the machine;
* `RecordLog` is kept from what the client gets, the header text of a STOP
  response included, and from the deactivation;
* `recording_ends_once` holds in every run in which the engine answers the
  active request and the ids have nine digits at most: the recordings accepted
  are those that have ended, in the same order, and the one that is stored.
-/

namespace UniMrcp.Engine

open UniMrcp.Lib UniMrcp.Apt UniMrcp.Mrcp

/-- `RECORDER_RECORD` -/
def recorderRecord : Nat := 2

/-- `RECORDER_EVENT_START_OF_INPUT` -/
def recorderStartOfInput : Nat := 0

/-- `RECORDER_EVENT_RECORD_COMPLETE` -/
def recorderRecordComplete : Nat := 1

/-! ## What a STOP response lists -/

/-- The header text of a response has the id in decimal between its commas. -/
def Lists (message : MrcpMessage) (id : UInt32) : Prop :=
  decimal id.toNat ∈ (cString (activeRequestIdListText message)).splitOn 44

instance (message : MrcpMessage) (id : UInt32) : Decidable (Lists message id) :=
  inferInstanceAs (Decidable (_ ∈ _))

/-- A response without a list reports the request in progress, if the buffer has
room for its id and the NUL. -/
theorem reportInProgress_lists {State : Type} {memory : Nat → UInt8} {machine : StateMachine State}
    {message reported request : MrcpMessage}
    (h : reportInProgress memory machine message = .ok reported)
    (hrequest : machine.inProgress = some request) (hunlisted : Unlisted message)
    (hid : request.requestId.toNat < 10 ^ 9) : Lists reported request.requestId := by
  obtain ⟨_, list, hreport, -, hids, htext, -⟩ := reportInProgress_text memory hrequest hunlisted
  cases hreport.symm.trans h
  have hdigits := (length_decimal_le_iff (n := request.requestId.toNat)
    (show 0 < 9 by decide)).mpr hid
  have hstring := (@generate_append_iff memory list (by simp [hids]) _ _
    (hids.symm.trans (List.append_nil _).symm)).1.mpr
      ⟨rfl, by simpa using hid.trans (by decide), by simpa [decimalIds] using hdigits⟩
  have hcomma : ∀ c ∈ decimal request.requestId.toNat, (c == 44) = false := by
    intro c hc
    by_contra heq
    obtain rfl : c = 44 := by simpa using heq
    exact absurd (isDigit_of_mem_decimal hc) (by decide)
  rw [Lists, htext, hstring, List.splitOn]
  simp [decimalIds, List.splitOnP_eq_singleton hcomma]

/-! ## What a message can do -/

/-- What one message can do to the machine, with the calls it makes. -/
inductive RecorderMove (machine : RecorderStateMachine) (message : MrcpMessage) :
    RecorderStateMachine → List Callback → Prop where
  | ignored : RecorderMove machine message machine []
  | dispatched (request : MrcpMessage) (properties : MessageHeader)
      (htype : request.startLine.messageType = .request)
      (hrecord : request.startLine.methodId = recorderRecord → machine.state ≠ .recording)
      (hstop : request.startLine.methodId = recorderStop → machine.state = .recording) :
      RecorderMove machine message
        { machine with activeRequest := some request, properties := properties }
        [.onDispatch request]
  | replied (reply : MrcpMessage) (htype : reply.startLine.messageType = .response)
      (hcomplete : reply.startLine.requestState = .complete)
      (hstop : reply.startLine.methodId = recorderStop → machine.state ≠ .recording) :
      RecorderMove machine message { machine with activeRequest := none }
        [responseCallback machine.active reply]
  | answered (active reply : MrcpMessage) (hactive : Answers machine message active)
      (htype : reply.startLine.messageType = .response)
      (hrecord : reply.startLine.methodId = recorderRecord →
        reply.startLine.requestState ≠ .inProgress)
      (hstop : reply.startLine.methodId ≠ recorderStop) :
      RecorderMove machine message { machine with activeRequest := none }
        [responseCallback machine.active reply]
  | accepted (active : MrcpMessage) (hactive : Answers machine message active)
      (htype : message.startLine.messageType = .response)
      (hrecord : message.startLine.methodId = recorderRecord)
      (hprogress : message.startLine.requestState = .inProgress) :
      RecorderMove machine message
        { machine with state := .recording, inProgress := some active, activeRequest := none }
        [responseCallback machine.active message]
  | stopped (active record reply : MrcpMessage) (hactive : Answers machine message active)
      (hstored : machine.inProgress = some record)
      (htype : message.startLine.messageType = .response)
      (hstop : message.startLine.methodId = recorderStop)
      (hline : reply.startLine = message.startLine)
      (hlists : Unlisted message → record.requestId.toNat < 10 ^ 9 →
        Lists reply record.requestId) :
      RecorderMove machine message
        { machine with state := .idle, inProgress := none, activeRequest := none }
        [responseCallback machine.active reply]
  | began (record event : MrcpMessage) (hstored : machine.inProgress = some record)
      (htype : event.startLine.messageType = .event)
      (hmethod : event.startLine.methodId = recorderStartOfInput)
      (hid : record.requestId = event.requestId) :
      RecorderMove machine message machine (if machine.active then [.onDispatch event] else [])
  | completed (record event : MrcpMessage) (hstored : machine.inProgress = some record)
      (htype : event.startLine.messageType = .event)
      (hmethod : event.startLine.methodId = recorderRecordComplete)
      (hid : record.requestId = event.requestId)
      (hstop : waitsForStop machine recorderStop = false) :
      RecorderMove machine message { machine with state := .idle, inProgress := none }
        (if machine.active then [.onDispatch event] else [])

variable {memory : Nat → UInt8} {update : Update RecorderState}
  {w : Observation RecorderState RecordLog}

section Moves

variable {machine : RecorderStateMachine} {message : MrcpMessage}

/-- A reply of the machine itself. -/
theorem RecorderMove.reply {reply : MrcpMessage}
    (hline : ∃ status, reply.startLine =
      { (mrcpResponseCreate message).startLine with statusCode := status })
    (hstop : message.startLine.methodId = recorderStop → machine.state ≠ .recording) :
    RecorderMove machine message (responseDispatch machine reply).machine
      (responseDispatch machine reply).callbacks := by
  obtain ⟨status, hline⟩ := hline
  obtain ⟨htype, -, hmethod, -, hstate⟩ := mrcpResponseCreate_spec message
  refine .replied reply ?_ ?_ ?_
  · rw [hline]
    exact htype
  · rw [hline]
    exact hstate
  · rw [hline]
    intro h
    exact hstop (hmethod.symm.trans h)

/-- The id of a method. -/
def RecorderMethod.id : RecorderMethod → Nat
  | .setParams => 0
  | .getParams => 1
  | .record => 2
  | .stop => 3
  | .startInputTimers => 4

theorem recorderMethod_eq_some {id : Nat} {method : RecorderMethod}
    (h : recorderMethod id = some method) : id = method.id := by
  unfold recorderMethod at h
  split at h <;> cases h <;> rfl

theorem recorderMove_request (htype : message.startLine.messageType = .request) :
    RecorderMove machine message (recorderRequestStateUpdate machine message).machine
      (recorderRequestStateUpdate machine message).callbacks := by
  unfold recorderRequestStateUpdate
  cases hmethod : recorderMethod message.startLine.methodId with
  | none => exact .ignored
  | some method =>
    have hid := recorderMethod_eq_some hmethod
    cases method with
    | setParams =>
      refine .dispatched message _ htype ?_ ?_ <;>
        exact fun h => absurd h (hid.trans_ne (by decide))
    | getParams =>
      refine .dispatched message machine.properties htype ?_ ?_ <;>
        exact fun h => absurd h (hid.trans_ne (by decide))
    | record =>
      have hstop : message.startLine.methodId ≠ recorderStop := hid.trans_ne (by decide)
      dsimp only [recorderRequestRecord]
      split
      · exact .reply ⟨statusCodeMethodNotValid, rfl⟩ fun h => absurd h hstop
      · next hidle =>
        exact .dispatched _ machine.properties htype (fun _ => hidle) fun h => absurd h hstop
    | stop =>
      dsimp only [recorderRequestStop]
      split
      · next hrecording =>
        refine .dispatched message machine.properties htype ?_ fun _ => hrecording
        exact fun h => absurd h (hid.trans_ne (by decide))
      · next hidle => exact .reply ⟨_, rfl⟩ fun _ => hidle
    | startInputTimers =>
      have hstop : message.startLine.methodId ≠ recorderStop := hid.trans_ne (by decide)
      dsimp only [recorderRequestStartTimers]
      split
      · refine .dispatched message machine.properties htype ?_ fun h => absurd h hstop
        exact fun h => absurd h (hid.trans_ne (by decide))
      · exact .reply ⟨statusCodeMethodNotValid, rfl⟩ fun h => absurd h hstop

theorem recorderMove_response (htype : message.startLine.messageType = .response) :
    Gives (RecorderMove machine message) (recorderResponseStateUpdate memory machine message) := by
  refine matched_cases (fun _ => .ok .ignored) fun active hactive hids => ?_
  have hanswers : Answers machine message active := ⟨hactive, hids⟩
  cases hmethod : recorderMethod message.startLine.methodId with
  | none => exact .ok .ignored
  | some method =>
    have hid := recorderMethod_eq_some hmethod
    cases method with
    | setParams | startInputTimers =>
      refine .ok (.answered active message hanswers htype ?_ ?_) <;>
        exact fun h => absurd h (hid.trans_ne (by decide))
    | getParams =>
      refine .ok (.answered active _ hanswers htype ?_ ?_) <;>
        exact fun h => absurd h (hid.trans_ne (by decide))
    | record =>
      refine .ok ?_
      unfold recorderResponseRecord
      by_cases hprogress : message.startLine.requestState = .inProgress
      · rw [if_pos hprogress]
        exact .accepted active hanswers htype hid hprogress
      · rw [if_neg hprogress]
        refine .answered active message hanswers htype (fun _ => hprogress) ?_
        exact fun h => absurd h (hid.trans_ne (by decide))
    | stop =>
      refine .bind fun reply hreply => .ok ?_
      obtain ⟨record, hstored, hline⟩ := reportInProgress_ok hreply
      exact .stopped active record reply hanswers hstored htype hid hline
        (reportInProgress_lists hreply hstored)

/-- The id of an event. -/
def RecorderEvent.id : RecorderEvent → Nat
  | .startOfInput => 0
  | .recordComplete => 1

theorem recorderEvent_eq_some {id : Nat} {event : RecorderEvent}
    (h : recorderEvent id = some event) : id = event.id := by
  unfold recorderEvent at h
  split at h <;> cases h <;> rfl

theorem recorderMove_event (htype : message.startLine.messageType = .event) :
    Gives (RecorderMove machine message) (recorderEventStateUpdate machine message) := by
  unfold recorderEventStateUpdate
  cases hevent : recorderEvent message.startLine.methodId with
  | none => exact .ok .ignored
  | some event =>
    have hid := recorderEvent_eq_some hevent
    cases event with
    | startOfInput =>
      refine .ok (matched_cases (P := fun u : Update _ => RecorderMove machine message u.machine
        u.callbacks)
        (fun _ => .ignored) fun record hstored hids => ?_)
      rw [eventDispatch_eq]
      exact .began record (setRequestState message .inProgress) hstored htype hid hids
    | recordComplete =>
      refine matched_cases (fun _ => .ok .ignored) fun record hstored hids => ?_
      split
      · exact .ok .ignored
      · next hstop =>
        refine .bind fun event hevent => .ok ?_
        have hline := completionCauseDefault_ok hevent
        rw [eventDispatch_eq]
        refine .completed record event hstored ?_ ?_ ?_ (Bool.not_eq_true _ ▸ hstop)
        · rw [hline]
          exact htype
        · rw [hline]
          exact hid
        · exact hids.trans (congrArg StartLine.requestId hline.symm)

theorem recorderStateUpdate_move :
    Gives (RecorderMove machine message) (recorderStateUpdate memory machine message) := by
  unfold recorderStateUpdate
  cases htype : message.startLine.messageType with
  | request => exact .ok (recorderMove_request htype)
  | response => exact recorderMove_response htype
  | event => exact recorderMove_event htype
  | unknown => exact .ok .ignored

/-- The only START-OF-INPUT is that of the stored request. -/
theorem RecorderMove.startOfInput {machine' : RecorderStateMachine} {callbacks : List Callback}
    {event : MrcpMessage} (hmove : RecorderMove machine message machine' callbacks)
    (hmem : .onDispatch event ∈ callbacks) (htype : event.startLine.messageType = .event)
    (hmethod : event.startLine.methodId = recorderStartOfInput) :
    ∃ record, machine.inProgress = some record ∧ record.requestId = event.requestId := by
  cases hmove with
  | ignored => exact nomatch hmem
  | dispatched request properties hrequest =>
    obtain rfl := Callback.onDispatch.inj (List.mem_singleton.mp hmem)
    exact nomatch htype.symm.trans hrequest
  | replied reply hreply => exact absurd hmem (ne_responseCallback htype hreply)
  | answered active reply hactive hreply => exact absurd hmem (ne_responseCallback htype hreply)
  | accepted active hactive hreply => exact absurd hmem (ne_responseCallback htype hreply)
  | stopped active record reply hactive hstored hreply hstop hline =>
    rw [← hline] at hreply
    exact absurd hmem (ne_responseCallback htype hreply)
  | began record event' hstored _ _ hid =>
    split at hmem
    · obtain rfl := Callback.onDispatch.inj (List.mem_singleton.mp hmem)
      exact ⟨record, hstored, hid⟩
    · exact nomatch hmem
  | completed record event' hstored _ hcomplete =>
    split at hmem
    · obtain rfl := Callback.onDispatch.inj (List.mem_singleton.mp hmem)
      exact absurd (hmethod.symm.trans hcomplete) (by decide)
    · exact nomatch hmem

theorem recorderEventStateUpdate_ne_null :
    recorderEventStateUpdate machine message ≠ .error .inProgress := by
  unfold recorderEventStateUpdate recorderEventRecordComplete
  intro h
  split at h
  · exact nomatch h
  · exact nomatch h
  · split at h
    · exact nomatch h
    · split at h
      · exact nomatch h
      · split at h
        · exact nomatch h
        · rcases completionCauseDefault_cases .recorder message with
            ⟨caused, hok, -⟩ | ⟨herror, -⟩
          · rw [hok] at h
            exact nomatch h
          · rw [herror] at h
            exact nomatch h

/-- The only handler that follows the pointer is that of the STOP response. -/
theorem recorderStateUpdate_null
    (h : recorderStateUpdate memory machine message = .error .inProgress) :
    message.startLine.messageType = .response ∧ message.startLine.methodId = recorderStop ∧
      (∃ active, Answers machine message active) ∧ machine.inProgress = none := by
  unfold recorderStateUpdate at h
  cases htype : message.startLine.messageType with
  | request | unknown =>
    rw [htype] at h
    exact nomatch h
  | event =>
    rw [htype] at h
    exact absurd h recorderEventStateUpdate_ne_null
  | response =>
    rw [htype] at h
    dsimp only [recorderResponseStateUpdate] at h
    split at h
    · exact nomatch h
    · next active hactive =>
      split at h
      · exact nomatch h
      · next hids =>
        split at h
        case h_4 hmethod =>
          refine ⟨rfl, recorderMethod_eq_some hmethod, ⟨active, hactive, not_not.mp hids⟩, ?_⟩
          rcases reportInProgress_cases memory machine message with
            ⟨reply, hok, -⟩ | ⟨-, hnone⟩ | ⟨herror, -⟩
          · simp only [recorderResponseStop, hok] at h
            exact nomatch h
          · exact hnone
          · simp only [recorderResponseStop, herror] at h
            exact nomatch h
        all_goals exact nomatch h

end Moves

/-! ## What the client sees -/

/-- How a recording ends. -/
inductive RecordEnd where
  | completed
  | stopped
  | deactivated
  deriving Repr, DecidableEq

/-- The ids of the recordings accepted, and of those that have ended. -/
structure RecordLog where
  accepted : List UInt32
  ended : List (UInt32 × RecordEnd)
  deriving Repr, DecidableEq

namespace RecordLog

/-- The recordings that have not ended. -/
def running (log : RecordLog) : List UInt32 := log.accepted.drop log.ended.length

/-- The end of some of them. -/
def finish (log : RecordLog) (ids : List UInt32) (how : RecordEnd) : RecordLog :=
  { log with ended := log.ended ++ ids.map (fun id => (id, how)) }

/-- A message to the client: an IN-PROGRESS response to RECORD accepts a
recording, a STOP response ends those that it lists, and a RECORD-COMPLETE the
one that it names. -/
def note (log : RecordLog) : Callback → RecordLog
  | .onDeactivate => log
  | .onDispatch message =>
    match message.startLine.messageType with
    | .response =>
      if message.startLine.methodId = recorderRecord then
        if message.startLine.requestState = .inProgress then
          { log with accepted := log.accepted ++ [message.requestId] }
        else log
      else if message.startLine.methodId = recorderStop then
        log.finish (log.running.filter (fun id => Lists message id)) .stopped
      else log
    | .event =>
      if message.startLine.methodId = recorderRecordComplete then
        log.finish [message.requestId] .completed
      else log
    | .request | .unknown => log

end RecordLog

/-- What a recorder gets: a message, or the end of its session. -/
inductive RecorderInput where
  | message (input : Received)
  | deactivate

/-- A recorder under observation. -/
def recorder : Observed RecorderState RecorderInput RecordLog where
  outcome machine input :=
    match input with
    | .message input => recorderStateUpdate input.memory machine input.message
    | .deactivate => .ok (recorderStateDeactivate machine)
  note log input callbacks :=
    match input with
    | .message _ => callbacks.foldl RecordLog.note log
    | .deactivate => log.finish log.running .deactivated

def recorderStart (version : MrcpVersion) : Observation RecorderState RecordLog :=
  ⟨mrcpRecorderStateMachineCreate version, ⟨[], []⟩, none⟩

/-! ## The balance of the log -/

/-- The recordings accepted are those that have ended and the given ones. -/
def RecordLog.Balanced (log : RecordLog) (ids : List UInt32) : Prop :=
  log.accepted = log.ended.map Prod.fst ++ ids

instance (log : RecordLog) (ids : List UInt32) : Decidable (log.Balanced ids) :=
  inferInstanceAs (Decidable (_ = _))

namespace RecordLog

variable {log : RecordLog} {ids : List UInt32}

theorem Balanced.running_eq (h : log.Balanced ids) : log.running = ids := by
  unfold running
  rw [h, ← List.length_map Prod.fst, List.drop_left]

theorem Balanced.finish (h : log.Balanced ids) (how : RecordEnd) :
    (log.finish ids how).Balanced [] := by
  simpa [Balanced, RecordLog.finish, Function.comp_def] using h

/-- A response that neither accepts a recording nor can end one. -/
theorem note_response (log : RecordLog) {message : MrcpMessage}
    (htype : message.startLine.messageType = .response)
    (hrecord : message.startLine.methodId = recorderRecord →
      message.startLine.requestState ≠ .inProgress)
    (hstop : message.startLine.methodId = recorderStop → log.running = []) (active : Bool) :
    log.note (responseCallback active message) = log := by
  cases active with
  | false => rfl
  | true =>
    simp only [responseCallback, if_true, note, htype]
    split
    · next hmethod => rw [if_neg (hrecord hmethod)]
    · split
      · next hmethod =>
        rw [hstop hmethod]
        simp [RecordLog.finish]
      · rfl

end RecordLog

/-- The recording that the client knows to be in progress. -/
def runningIds (machine : RecorderStateMachine) : List UInt32 :=
  if machine.active then (machine.inProgress.map MrcpMessage.requestId).toList else []

theorem runningIds_some {machine : RecorderStateMachine} {record : MrcpMessage}
    (hon : machine.active = true) (hsome : machine.inProgress = some record) :
    runningIds machine = [record.requestId] := by
  simp [runningIds, hon, hsome]

/-! ## Runs -/

/-- The state is RECORDING exactly when a request is stored, which is a RECORD;
each recording accepted has ended once or is the one stored; and the pointer to
it has not been followed when it was NULL. -/
structure RecordingValid (w : Observation RecorderState RecordLog) : Prop where
  recording : w.machine.state = .recording ↔ w.machine.inProgress.isSome = true
  stored : ∀ record ∈ w.machine.inProgress, record.startLine.methodId = recorderRecord
  balanced : w.log.Balanced (runningIds w.machine)
  fault : w.fault ≠ some .inProgress

/-- The response of the engine to the active request: a RECORD or STOP response
answers a RECORD or STOP, and a STOP response leaves its list to the machine,
with nine digits at most for the id of the recording. -/
def EngineAnswers (w : Observation RecorderState RecordLog) : RecorderInput → Prop
  | .message input => input.message.startLine.messageType = .response →
      ∀ active ∈ w.machine.activeRequest, active.requestId = input.message.requestId →
        (input.message.startLine.methodId = recorderRecord →
          active.startLine.methodId = recorderRecord) ∧
        (input.message.startLine.methodId = recorderStop →
          active.startLine.methodId = recorderStop ∧ Unlisted input.message ∧
            ∀ record ∈ w.machine.inProgress, record.requestId.toNat < 10 ^ 9)
  | .deactivate => True

instance (w : Observation RecorderState RecordLog) :
    (input : RecorderInput) → Decidable (EngineAnswers w input)
  | .message _ => inferInstanceAs (Decidable (_ → ∀ active ∈ w.machine.activeRequest, _ → _))
  | .deactivate => isTrue trivial

/-- A START-OF-INPUT event that the client gets names the stored request. -/
def StartOfInputStored (w : Observation RecorderState RecordLog) (input : RecorderInput) : Prop :=
  ∀ update, recorder.outcome w.machine input = .ok update →
    ∀ event, .onDispatch event ∈ update.callbacks → event.startLine.messageType = .event →
      event.startLine.methodId = recorderStartOfInput →
      ∃ record, w.machine.inProgress = some record ∧ record.requestId = event.requestId

/-- The handler of the STOP response finds the stored request. -/
def StopFindsRecord (w : Observation RecorderState RecordLog) : RecorderInput → Prop
  | .message input => input.message.startLine.messageType = .response →
      input.message.startLine.methodId = recorderStop →
      (∃ active, Answers w.machine input.message active) → w.machine.inProgress.isSome = true
  | .deactivate => True

/-- The invariant: while a RECORD is at the engine nothing is stored, and while
a STOP is there the recording is. -/
structure RecorderInv (w : Observation RecorderState RecordLog) : Prop
    extends RecordingValid w where
  record : ∀ active, w.machine.activeRequest = some active →
    active.startLine.methodId = recorderRecord → w.machine.inProgress = none
  stop : ∀ active, w.machine.activeRequest = some active →
    active.startLine.methodId = recorderStop → w.machine.inProgress.isSome = true

theorem recorderInv_start (version : MrcpVersion) : RecorderInv (recorderStart version) where
  recording := by simp [recorderStart, mrcpRecorderStateMachineCreate]
  stored := fun _ h => (nomatch h)
  balanced := rfl
  fault := fun h => (nomatch h)
  record := fun _ h => (nomatch h)
  stop := fun _ h => (nomatch h)

/-- Nothing is at the engine. -/
theorem RecordingValid.inv (h : RecordingValid w) (hactive : w.machine.activeRequest = none) :
    RecorderInv w :=
  ⟨h, fun _ hsome => absurd (hactive.symm.trans hsome) nofun,
    fun _ hsome => absurd (hactive.symm.trans hsome) nofun⟩

/-- One message. -/
theorem RecorderInv.move (h : RecorderInv w) {input : Received}
    (hengine : EngineAnswers w (.message input)) {machine : RecorderStateMachine}
    {callbacks : List Callback} (hmove : RecorderMove w.machine input.message machine callbacks) :
    RecorderInv ⟨machine, callbacks.foldl RecordLog.note w.log, none⟩ := by
  obtain ⟨⟨hrecording, hstored, hbalanced, -⟩, hrecord, hstop⟩ := h
  have hidle : w.machine.state ≠ .recording → w.machine.inProgress = none := by
    intro h
    rwa [ne_eq, hrecording, Bool.not_eq_true, Option.isSome_eq_false_iff,
      Option.isNone_iff_eq_none] at h
  have hnothing : w.machine.inProgress = none → w.log.running = [] := by
    intro h
    rw [hbalanced.running_eq]
    simp [runningIds, h]
  have hkept : ∀ {callback}, w.log.note callback = w.log →
      ([callback].foldl RecordLog.note w.log).Balanced (runningIds w.machine) := by
    intro callback hnote
    rwa [List.foldl_cons, hnote]
  cases hmove with
  | ignored => exact ⟨⟨hrecording, hstored, hbalanced, nofun⟩, hrecord, hstop⟩
  | dispatched request properties htype hfree hbusy =>
    refine ⟨⟨hrecording, hstored, hkept (by simp [RecordLog.note, htype]), nofun⟩, ?_, ?_⟩
    · intro active hactive hmethod
      cases hactive
      exact hidle (hfree hmethod)
    · intro active hactive hmethod
      cases hactive
      exact hrecording.mp (hbusy hmethod)
  | replied reply htype hcomplete hfree =>
    have hnote := w.log.note_response htype
      (fun _ => by rw [hcomplete]; decide) (fun h => hnothing (hidle (hfree h))) w.machine.active
    exact RecordingValid.inv ⟨hrecording, hstored, hkept hnote, nofun⟩ rfl
  | answered active reply hactive htype hprogress hmethod =>
    have hnote := w.log.note_response htype hprogress
      (fun h => absurd h hmethod) w.machine.active
    exact RecordingValid.inv ⟨hrecording, hstored, hkept hnote, nofun⟩ rfl
  | accepted active hactive htype hmethod hprogress =>
    -- a RECORD is at the engine, so that nothing is stored
    have hmain := (hengine htype active hactive.1 hactive.2).1 hmethod
    have hnone := hrecord active hactive.1 hmain
    refine RecordingValid.inv ⟨by simp, ?_, ?_, nofun⟩ rfl
    · intro record hsome
      cases hsome
      exact hmain
    · cases hon : w.machine.active with
      | false =>
        simp only [runningIds, hon] at hbalanced ⊢
        simpa [responseCallback, RecordLog.note] using hbalanced
      | true =>
        simp only [runningIds, hnone] at hbalanced ⊢
        have hid : input.message.requestId = active.requestId := hactive.2.symm
        simpa [responseCallback, RecordLog.note, htype, hmethod, hprogress, hid,
          RecordLog.Balanced] using hbalanced
  | stopped active record reply hactive hsome htype hmethod hline hlists =>
    obtain ⟨-, hunlisted, hdigits⟩ := (hengine htype active hactive.1 hactive.2).2 hmethod
    have hlisted := hlists hunlisted (hdigits record hsome)
    refine RecordingValid.inv ⟨by simp, by simp, ?_, nofun⟩ rfl
    cases hon : w.machine.active with
    | false =>
      simp only [runningIds, hon] at hbalanced ⊢
      exact hbalanced
    | true =>
      have hone := runningIds_some hon hsome ▸ hbalanced
      have hnote : w.log.note (.onDispatch reply) = w.log.finish [record.requestId] .stopped := by
        simp only [RecordLog.note, hline, htype, hmethod]
        rw [if_neg (by decide), if_pos trivial, hone.running_eq, List.filter_cons_of_pos (by simpa),
          List.filter_nil]
      simp only [responseCallback, if_true, List.foldl_cons, hnote]
      simpa [runningIds] using hone.finish .stopped
  | began record event hsome htype hmethod hid =>
    have hnote : w.log.note (.onDispatch event) = w.log := by
      simp only [RecordLog.note, htype, hmethod]
      rfl
    refine ⟨⟨hrecording, hstored, ?_, nofun⟩, hrecord, hstop⟩
    split
    · exact hkept hnote
    · exact hbalanced
  | completed record event hsome htype hmethod hid hwait =>
    refine ⟨⟨by simp, by simp, ?_, nofun⟩, fun _ _ _ => rfl, ?_⟩
    · cases hon : w.machine.active with
      | false =>
        simp only [runningIds, hon] at hbalanced ⊢
        exact hbalanced
      | true =>
        have hone := runningIds_some hon hsome ▸ hbalanced
        have hnote : w.log.note (.onDispatch event) =
            w.log.finish [record.requestId] .completed := by
          simp [RecordLog.note, htype, hmethod, hid]
        simp only [if_true, List.foldl_cons, hnote]
        simpa [runningIds] using hone.finish .completed
    · intro active hactive hmethod
      dsimp only at hactive
      simp [waitsForStop, hactive, hmethod] at hwait

/-- The end of the session: what is stored is asked to stop, and the client gets
nothing more. -/
theorem RecorderInv.deactivate (h : RecorderInv w) :
    RecorderInv ⟨(recorderStateDeactivate w.machine).machine,
      w.log.finish w.log.running .deactivated, none⟩ := by
  obtain ⟨⟨hrecording, hstored, hbalanced, -⟩, hrecord, hstop⟩ := h
  have hended : (w.log.finish w.log.running .deactivated).Balanced [] := by
    rw [hbalanced.running_eq]
    exact hbalanced.finish .deactivated
  unfold recorderStateDeactivate
  dsimp only
  split
  · next source _ hsome =>
    refine ⟨⟨hrecording, hstored, hended, nofun⟩, ?_, fun _ _ _ => ?_⟩
    · intro active hactive hmethod
      cases hactive
      rw [(deactivateRequest_startLine source recorderStop).2] at hmethod
      exact absurd hmethod (by decide)
    · exact Option.isSome_iff_exists.mpr ⟨source, hsome⟩
  · exact ⟨⟨hrecording, hstored, hended, nofun⟩, hrecord, hstop⟩

theorem RecorderInv.step {w' : Observation RecorderState RecordLog} {input : RecorderInput}
    (h : RecorderInv w) (hengine : EngineAnswers w input)
    (hstep : recorder.step w input = some w') :
    RecorderInv w' ∧ StartOfInputStored w input ∧ StopFindsRecord w input := by
  have hfinds : StopFindsRecord w input := by
    cases input with
    | deactivate => trivial
    | message input =>
      rintro htype hmethod ⟨active, hactive, hid⟩
      exact h.stop active hactive ((hengine htype active hactive hid).2 hmethod).1
  refine ⟨?_, ?_, hfinds⟩
  · rcases Observed.step_cases hstep with ⟨update, hupdate, rfl⟩ | ⟨pointer, herror, rfl⟩
    · cases input with
      | message input => exact h.move hengine (recorderStateUpdate_move _ hupdate)
      | deactivate =>
        cases hupdate
        exact h.deactivate
    · refine ⟨⟨h.recording, h.stored, h.balanced, ?_⟩, h.record, h.stop⟩
      intro hpointer
      cases hpointer
      cases input with
      | message input =>
        obtain ⟨htype, hmethod, hactive, hnone⟩ := recorderStateUpdate_null herror
        have hsome := hfinds htype hmethod hactive
        rw [hnone] at hsome
        exact nomatch hsome
      | deactivate => exact nomatch herror
  · intro update hupdate event hmem htype hmethod
    cases input with
    | message input =>
      exact (recorderStateUpdate_move _ hupdate).startOfInput hmem htype hmethod
    | deactivate =>
      cases hupdate
      unfold recorderStateDeactivate at hmem
      dsimp only at hmem
      split at hmem
      · next source _ _ =>
        obtain rfl := Callback.onDispatch.inj (List.mem_singleton.mp hmem)
        exact nomatch htype.symm.trans (deactivateRequest_startLine source recorderStop).1
      · exact nomatch hmem

/-- In every run of a recorder whose engine answers what it was asked, the state
is RECORDING exactly when a RECORD is stored, each recording accepted has been
ended once or is the one stored, the client gets START-OF-INPUT for the stored
request only, and the STOP response finds it. -/
theorem recording_ends_once (version : MrcpVersion) (inputs : List RecorderInput)
    (h : Runs.Along recorder.step EngineAnswers (recorderStart version) inputs) :
    Runs.Always recorder.step RecordingValid (recorderStart version) inputs ∧
      Runs.Along recorder.step (fun w input => StartOfInputStored w input ∧ StopFindsRecord w input)
        (recorderStart version) inputs := by
  constructor
  · have hinv := Runs.always_of_along
      (fun w input w' hI hP hstep => (RecorderInv.step hI hP hstep).1)
      inputs _ (recorderInv_start version) h
    exact hinv.mono (fun w hw => hw.toRecordingValid)
  · exact Runs.along_of_invariant (fun w input w' hI hP hstep => RecorderInv.step hI hP hstep)
      inputs _ (recorderInv_start version) h

/-- A recording that completes, one that is stopped although it completes at the
same time, and one that is left to the end of the session. -/
def threeRecordings : List RecorderInput :=
  let record := clientRequest .recorder recorderRecord
  let stop := clientRequest .recorder recorderStop
  [.message (received (record 1)), .message (received (inProgress (record 1))),
   .message (received (mrcpEventCreate (record 1) recorderStartOfInput)),
   .message (received (mrcpEventCreate (record 1) recorderRecordComplete)),
   .message (received (record 2)), .message (received (inProgress (record 2))),
   .message (received (stop 3)),
   .message (received (mrcpEventCreate (record 2) recorderRecordComplete)),
   .message (received (mrcpResponseCreate (stop 3))),
   .message (received (record 4)), .message (received (inProgress (record 4))), .deactivate]

theorem recording_ends_once_threeRecordings :
    (Runs.after recorder.step (recorderStart .v2) threeRecordings).map Observation.log =
        some ⟨[1, 2, 4], [(1, .completed), (2, .stopped), (4, .deactivated)]⟩ ∧
      Runs.Always recorder.step RecordingValid (recorderStart .v2) threeRecordings :=
  ⟨by decide +kernel, (recording_ends_once .v2 threeRecordings (by decide +kernel)).1⟩

/-- A recording with an id of ten digits is stopped. -/
def longId : List RecorderInput :=
  let record := clientRequest .recorder recorderRecord 1234567890
  let stop := clientRequest .recorder recorderStop 2
  [.message (received record), .message (received (inProgress record)),
   .message (received stop), .message (received (mrcpResponseCreate stop))]

/-- A RECORD is at the engine, which answers with the method of a STOP. -/
def strayStop : List RecorderInput :=
  [.message (received (clientRequest .recorder recorderRecord 1)),
   .message (received (mrcpResponseCreate (clientRequest .recorder recorderStop 1)))]

/-- The STOP response lists the id without its last digit, so that no message
to the client names the end of the recording; and a STOP response to a RECORD
follows a NULL pointer. -/
theorem recording_end_not_listed :
    (Runs.after recorder.step (recorderStart .v2) longId).map
        (fun w => (runningIds w.machine, w.log)) = some ([], ⟨[1234567890], []⟩) ∧
      ¬ Runs.Always recorder.step RecordingValid (recorderStart .v2) longId ∧
      (Runs.after recorder.step (recorderStart .v2) strayStop).map Observation.fault =
        some (some .inProgress) ∧
      ¬ Runs.Always recorder.step RecordingValid (recorderStart .v2) strayStop := by
  have hlong : (Runs.after recorder.step (recorderStart .v2) longId).map
      (fun w => (runningIds w.machine, w.log)) = some ([], ⟨[1234567890], []⟩) := by
    decide +kernel
  have hstray : (Runs.after recorder.step (recorderStart .v2) strayStop).map Observation.fault =
      some (some .inProgress) := by decide +kernel
  refine ⟨hlong, fun h => ?_, hstray, fun h => ?_⟩
  · obtain ⟨w, hw, hlog⟩ := Option.map_eq_some_iff.mp hlong
    obtain ⟨hrunning, hlog⟩ := Prod.mk.inj hlog
    have hbalanced := (h.after hw).balanced
    rw [hrunning, hlog] at hbalanced
    exact nomatch hbalanced
  · obtain ⟨w, hw, hfault⟩ := Option.map_eq_some_iff.mp hstray
    exact (h.after hw).fault hfault

end UniMrcp.Engine
