import UniMrcp.Engine.Dispatcher

/-!
# The effects of the shared handlers

One lemma for each function that the handlers of both machines end in.  The
machine a handler passes to it differs from the one it got in fields that the
dispatching does not look at, or in a completed request that it gives up:
`Kept` says so.
-/

namespace UniMrcp.Engine.Resource

open UniMrcp.Lib UniMrcp.Mrcp

variable {State : Type} {R : Resource State}

/-- `machine'` is `machine` to the dispatching, apart from a request that is no
longer in progress. -/
structure Kept (R : Resource State) (machine machine' : StateMachine State) : Prop where
  active : machine'.active = machine.active
  isPending : machine'.isPending = machine.isPending
  queue : machine'.queue = machine.queue
  consistent : R.Consistent machine'.state machine'.inProgress
  busy : R.busy machine'.state machine'.inProgress = R.busy machine.state machine.inProgress
  stored : StoredKept (R.view machine) (machine'.inProgress.map requestOf)

variable {machine : StateMachine State} {message message' : MrcpMessage}

theorem Kept.refl (hlive : R.Live machine) : R.Kept machine machine :=
  ⟨rfl, rfl, rfl, hlive.consistent, rfl, .inl rfl⟩

theorem kept_properties (hlive : R.Live machine) (properties : MessageHeader) :
    R.Kept machine { machine with properties := properties } :=
  ⟨rfl, rfl, rfl, hlive.consistent, rfl, .inl rfl⟩

theorem requestOf_congr (h : message'.startLine = message.startLine) :
    requestOf message' = requestOf message := by
  rw [requestOf, requestOf, h]

theorem signalOf_request (h : message.startLine.messageType = .request) :
    signalOf message = .request (requestOf message) := by
  rw [signalOf, h]

theorem signalOf_event (h : message.startLine.messageType = .event) :
    signalOf message = .event (requestOf message) := by
  rw [signalOf, h]

/-- What the response says. -/
def answerOf (message : MrcpMessage) : Answer :=
  ⟨message.startLine.requestState == .inProgress,
    message.startLine.statusCode == statusCodeSuccess⟩

theorem signalOf_response (h : message.startLine.messageType = .response) :
    signalOf message = .response (requestOf message) (answerOf message) := by
  rw [signalOf, h]
  rfl

theorem responseDispatch_emissions {response : MrcpMessage} (hon : machine.active = true)
    (htype : response.startLine.messageType = .response)
    (hrequest : requestOf response = requestOf message) :
    (responseDispatch machine response).callbacks.filterMap Callback.emission =
      [.response (requestOf message)] := by
  simp [responseDispatch, hon, Callback.emission, emissionOf, htype, hrequest]

/-- An update from its effect on the view. -/
theorem Admits.ok {update : Update State} {signal : Signal} {v : View}
    {emissions : List Emission} (hsignal : signalOf message = signal)
    (hlive : R.Live update.machine) (hview : R.view update.machine = v)
    (hemissions : update.callbacks.filterMap Callback.emission = emissions)
    (h : Effect R.methods (R.view machine) signal v emissions) :
    R.Admits machine message (.ok update) := by
  subst hsignal hview hemissions
  exact ⟨hlive, h⟩

theorem view_awaits {active : MrcpMessage} (hactive : machine.activeRequest = some active)
    (hid : active.requestId = message.requestId) :
    (R.view machine).active = some (requestOf active) ∧
      (requestOf active).id = (requestOf message).id :=
  ⟨by simp [view, hactive], hid⟩

theorem view_stores_iff {stored : MrcpMessage} (hstored : machine.inProgress = some stored) :
    (R.view machine).Stores (requestOf message) ↔ stored.requestId = message.requestId := by
  simp only [View.Stores, view, hstored, Option.map_some, Option.some.injEq, exists_eq_left']
  rfl

/-- A message without header data may end the channel. -/
theorem admits_noHeader {pointer : NullPointer} (hpointer : pointer ≠ .inProgress)
    (hdata : message.header.data.isSome = false) : R.Admits machine message (.error pointer) := by
  refine .inr ⟨hpointer, fun hprepared => ?_⟩
  rw [hprepared.2] at hdata
  cases hdata

/-- A message that gets its completion cause first. -/
theorem admits_cause (resource : MrcpResource) {finish : MrcpMessage → Checked (Update State)}
    (hfinish : ∀ message', message'.startLine = message.startLine → R.Admits machine message
      (finish message')) :
    R.Admits machine message (completionCauseDefault resource message >>= finish) := by
  rcases completionCauseDefault_cases resource message with
    ⟨message', hcause, hline⟩ | ⟨hcause, hdata⟩
  · rw [hcause]
    exact hfinish message' hline
  · rw [hcause]
    exact admits_noHeader (by simp) hdata

/-! ## Requests -/

theorem mrcpResponseCreate_request (request : MrcpMessage) :
    (mrcpResponseCreate request).startLine.messageType = .response ∧
      requestOf (mrcpResponseCreate request) = requestOf request := by
  obtain ⟨htype, hid, hmethod, -⟩ := mrcpResponseCreate_spec request
  exact ⟨htype, by rw [requestOf, requestOf, hid, hmethod]⟩

theorem methodNotValid_request (request : MrcpMessage) :
    (methodNotValid request).startLine.messageType = .response ∧
      requestOf (methodNotValid request) = requestOf request :=
  mrcpResponseCreate_request request

section Requests

variable {machine machine' : StateMachine State} {message : MrcpMessage}
  (hlive : R.Live machine) (htype : message.startLine.messageType = .request)
include hlive htype

theorem admits_requestDispatch (hkept : R.Kept machine machine')
    (hline : message'.startLine = message.startLine)
    (hmethod : message.startLine.methodId < R.methods.count)
    (hfree : message.startLine.methodId = R.methods.main → R.busy machine.state
      machine.inProgress = false)
    (hfollows : message.startLine.methodId ∈ R.methods.follows → machine'.inProgress.isSome =
      true) :
    R.Admits machine message (.ok (requestDispatch machine' message')) := by
  have hemission : emissionOf message' = .toEngine (requestOf message) := by
    rw [emissionOf, hline, htype, requestOf_congr hline]
  refine .ok (signalOf_request htype) ⟨hkept.active.trans hlive.active, hkept.consistent, ?_⟩ ?_
    (congrArg (fun e => [e]) hemission)
    (.dispatched _ _ (machine'.inProgress.map requestOf) hmethod hfree hkept.stored ?_)
  · show ∀ pending ∈ machine'.queue, _
    rw [hkept.queue]
    exact hlive.queue
  · simp [view, requestDispatch, hkept.isPending, hkept.queue, hkept.busy, requestOf_congr hline]
  · intro h
    simpa using hfollows h

/-- An immediate response, with what a STOP leaves in the queue. -/
theorem admits_reply (hkept : R.Kept machine machine')
    (hmain : message.startLine.methodId ≠ R.methods.main) {queue : List MrcpMessage}
    (hqueue : queue.Sublist machine.queue) {response : MrcpMessage}
    (hresponse : response.startLine.messageType = .response)
    (hrequest : requestOf response = requestOf message) :
    R.Admits machine message
      (.ok (responseDispatch { machine' with queue := queue } response)) := by
  have hactive : machine'.active = true := hkept.active.trans hlive.active
  refine .ok (signalOf_request htype) ⟨hactive, hkept.consistent, ?_⟩ ?_
    (responseDispatch_emissions (by exact hactive) hresponse hrequest)
    (.replied _ _ (machine'.inProgress.map requestOf) _ hmain hkept.stored (hqueue.map requestOf))
  · exact fun pending hmem => hlive.queue pending (hqueue.subset hmem)
  · simp [view, responseDispatch, hkept.isPending, hkept.busy]

/-- An immediate response that leaves the queue alone. -/
theorem admits_responseDispatch (hmain : message.startLine.methodId ≠ R.methods.main)
    {response : MrcpMessage} (h : response.startLine.messageType = .response ∧
      requestOf response = requestOf message) :
    R.Admits machine message (.ok (responseDispatch machine response)) :=
  admits_reply hlive htype (.refl hlive) hmain (List.Sublist.refl _) h.1 h.2

/-- The immediate response to a STOP. -/
theorem admits_stopReply (memory : Nat → UInt8) (hkept : R.Kept machine machine')
    (hmain : message.startLine.methodId ≠ R.methods.main) :
    R.Admits machine message (stopReply memory machine' message) := by
  obtain ⟨hresponse, hrequest⟩ := mrcpResponseCreate_request message
  rcases pendingRequestsRemove_cases memory machine'.queue message
      (mrcpResponseCreate message) with ⟨response, hremove, hline⟩ | ⟨hremove, hdata⟩
  · have heq : stopReply memory machine' message = .ok (responseDispatch
        { machine' with queue := remaining message machine'.queue } response) := by
      simp only [stopReply, hremove]
      rfl
    rw [heq]
    apply admits_reply hlive htype hkept hmain
    · rw [hkept.queue]
      exact remaining_sublist message machine.queue
    · rw [hline, hresponse]
    · rw [requestOf_congr hline, hrequest]
  · have heq : stopReply memory machine' message = .error .genericHeader := by
      simp only [stopReply, hremove]
      rfl
    rw [heq]
    refine .inr ⟨by simp, fun hprepared => ?_⟩
    rw [(mrcpResponseCreate_spec message).2.2.2.1, hprepared.1] at hdata
    cases hdata

/-- A RECOGNIZE or SPEAK that waits. -/
theorem admits_queueUp (hmain : message.startLine.methodId = R.methods.main)
    (hbusy : R.busy machine.state machine.inProgress = true)
    (hline : message'.startLine = message.startLine) :
    R.Admits machine message (.ok (queueUp machine message')) := by
  have hid : requestOf (setRequestState message' .pending) = requestOf message := by
    simp [requestOf, setRequestState, hline]
  obtain ⟨htype', hrequest⟩ := mrcpResponseCreate_request (setRequestState message' .pending)
  refine .ok (signalOf_request htype) ⟨hlive.active, hlive.consistent, ?_⟩ ?_
    (responseDispatch_emissions (by exact hlive.active) (by exact htype')
      (by exact hrequest.trans hid)) (.enqueued _ _ hmain hbusy)
  · intro pending hmem
    rcases List.mem_append.mp hmem with hmem | hmem
    · exact hlive.queue pending hmem
    · rw [List.mem_singleton.mp hmem]
      show message'.startLine.messageType = _ ∧ message'.startLine.methodId = _
      rw [hline]
      exact ⟨htype, hmain⟩
  · simp [view, queueUp, responseDispatch, hid]

end Requests

/-! ## The next pending request -/

theorem processPending_live {update : Update State} (hlive : R.Live update.machine) :
    R.Live (processPending update).machine := by
  unfold processPending
  split
  · exact hlive
  · next pending queue hqueue =>
    refine ⟨hlive.active, hlive.consistent, ?_⟩
    intro other hmem
    apply hlive.queue
    rw [hqueue]
    exact List.mem_cons_of_mem _ hmem

theorem processPending_view (update : Update State) :
    R.view (processPending update).machine = (R.view update.machine).pop.1 := by
  unfold processPending View.pop
  cases hqueue : update.machine.queue with
  | nil => simp [view, hqueue]
  | cons pending queue => simp [view, hqueue, requestDispatch]

theorem processPending_emissions {update : Update State} (hlive : R.Live update.machine) :
    (processPending update).callbacks.filterMap Callback.emission =
      update.callbacks.filterMap Callback.emission ++ (R.view update.machine).pop.2 := by
  unfold processPending View.pop
  cases hqueue : update.machine.queue with
  | nil => simp [view, hqueue]
  | cons pending queue =>
    have hpending := (hlive.queue pending (by simp [hqueue])).1
    simp [view, hqueue, requestDispatch, Callback.emission, emissionOf, hpending]

/-! ## Responses -/

section Responses

variable {machine machine' : StateMachine State} {active message : MrcpMessage}

section

variable (hlive : R.Live machine) (htype : message.startLine.messageType = .response)
include hlive htype

theorem admits_ignoredResponse
    (h : ¬ (R.view machine).Awaits (requestOf message) ∨
      R.methods.count ≤ (requestOf message).method) :
    R.Admits machine message (.ok (unexpected machine)) :=
  .ok (signalOf_response htype) hlive rfl rfl (.ignoredResponse _ _ _ h)

/-- Only the response to the active request is handled. -/
theorem admits_awaited {handle : MrcpMessage → Checked (Update State)}
    (hhandle : ∀ active, machine.activeRequest = some active →
      active.requestId = message.requestId → R.Admits machine message (handle active)) :
    R.Admits machine message (match machine.activeRequest with
      | none => .ok (unexpected machine)
      | some active =>
        if active.requestId ≠ message.requestId then .ok (unexpected machine)
        else handle active) := by
  refine matched_cases (P := R.Admits machine message) (fun hnone => ?_) hhandle
  refine admits_ignoredResponse hlive htype (.inl ?_)
  rintro ⟨_, hactive, hid⟩
  obtain ⟨active, hsome, rfl⟩ := Option.map_eq_some_iff.mp hactive
  exact hnone active hsome hid

end

/-- A response that is passed on and changes nothing else. -/
theorem admits_answer (hlive : R.Live machine) (htype : message.startLine.messageType = .response)
    (hactive : machine.activeRequest = some active) (hid : active.requestId = message.requestId)
    (hkept : R.Kept machine machine') (hsame : machine'.inProgress = machine.inProgress)
    (hmethod : message.startLine.methodId < R.methods.count)
    (hmain : message.startLine.methodId ≠ R.methods.main)
    (hstop : message.startLine.methodId ≠ R.methods.stop)
    (hbarge : message.startLine.methodId ∉ R.methods.bargeIn)
    (hline : message'.startLine = message.startLine) :
    R.Admits machine message (.ok (responseDispatch machine' message')) := by
  have hon : machine'.active = true := hkept.active.trans hlive.active
  obtain ⟨hview, hrequest⟩ := view_awaits hactive hid
  refine .ok (signalOf_response htype) ⟨hon, hkept.consistent, ?_⟩ ?_
    (responseDispatch_emissions hon (by rw [hline, htype]) (requestOf_congr hline))
    (.answered _ _ _ _ hview hrequest hmethod hmain hstop hbarge)
  · show ∀ pending ∈ machine'.queue, _
    rw [hkept.queue]
    exact hlive.queue
  · have hbusy := hkept.busy
    rw [hsame] at hbusy
    simp [view, responseDispatch, hkept.isPending, hkept.queue, hbusy, hsame]

section

variable [DecidableEq State] (idle begun : State) (hne : begun ≠ idle)
  (hconsistent : ∀ request, R.Consistent begun (some request))
  (hbusy : ∀ request, R.busy begun (some request) = true) (hlive : R.Live machine)
include hne hconsistent hbusy hlive

/-- The machine behind the first half of `recog_response_recognize` and
`synth_response_speak`. -/
theorem begin_spec (active message : MrcpMessage) :
    let machine' :=
      if message.startLine.requestState = .inProgress then
        stateChange idle { machine with inProgress := some active } begun
      else machine
    R.Live machine' ∧ machine'.isPending = machine.isPending ∧
      R.view machine' = (R.view machine).begin (requestOf active) (answerOf message) := by
  split
  · next hprogress =>
    refine ⟨⟨hlive.active, ?_, hlive.queue⟩, rfl, ?_⟩
    · simp [stateChange, hne, hconsistent]
    · simp [view, stateChange, hne, hbusy, View.begin, answerOf, hprogress]
  · next hprogress =>
    refine ⟨hlive, rfl, ?_⟩
    simp [View.begin, answerOf, hprogress]

/-- The response to a RECOGNIZE or SPEAK: one of the client is answered, and
`fromQueue` is what is done about one of the queue. -/
theorem admits_begun (htype : message.startLine.messageType = .response)
    (hactive : machine.activeRequest = some active) (hid : active.requestId = message.requestId)
    (hmain : message.startLine.methodId = R.methods.main)
    {fromQueue : StateMachine State → Update State}
    (hqueue : ∀ machine' : StateMachine State, machine'.active = true → ∃ callbacks status,
      fromQueue machine' = ⟨{ machine' with isPending := false }, callbacks, status⟩ ∧
      callbacks.filterMap Callback.emission =
        if R.methods.announces then [.event ⟨(requestOf active).id, R.methods.marker⟩] else []) :
    let machine' :=
      if message.startLine.requestState = .inProgress then
        stateChange idle { machine with inProgress := some active } begun
      else machine
    R.Admits machine message (.ok
      (if machine'.isPending then fromQueue machine' else responseDispatch machine' message)) := by
  obtain ⟨hview, hrequest⟩ := view_awaits hactive hid
  have hbegin := begin_spec idle begun hne hconsistent hbusy hlive active message
  intro machine'
  obtain ⟨hlive', hpending, hview'⟩ : R.Live machine' ∧ _ := hbegin
  have hnext : R.Live { machine' with isPending := false } :=
    ⟨hlive'.active, hlive'.consistent, hlive'.queue⟩
  split
  · next h =>
    obtain ⟨callbacks, status, heq, hcallbacks⟩ := hqueue machine' hlive'.active
    rw [heq]
    refine .ok (signalOf_response htype) hnext ?_ hcallbacks
      (.pendingAnswered _ _ _ _ hview hrequest hmain (hpending.symm.trans h))
    rw [← hview']
    rfl
  · next h =>
    refine .ok (signalOf_response htype) ⟨hlive'.active, hlive'.consistent, hlive'.queue⟩ ?_
      (responseDispatch_emissions hlive'.active htype rfl)
      (.mainAnswered _ _ _ _ hview hrequest hmain (hpending.symm.trans (Bool.eq_false_iff.mpr h)))
    rw [← hview']
    rfl

end

section

variable (memory : Nat → UInt8) (htype : message.startLine.messageType = .response)
  (hactive : machine.activeRequest = some active) (hid : active.requestId = message.requestId)
  (hfollows : message.startLine.methodId ∈ R.methods.follows)
include htype hactive hid hfollows

/-- A response that reports the request in progress and then goes on. -/
theorem admits_follow {finish : MrcpMessage → Checked (Update State)}
    (hfinish : ∀ message', message'.startLine = message.startLine →
      message'.header.data.isSome = message.header.data.isSome →
      machine.inProgress.isSome = true → R.Admits machine message (finish message')) :
    R.Admits machine message (reportInProgress memory machine message >>= finish) := by
  obtain ⟨hview, hrequest⟩ := view_awaits hactive hid
  rcases reportInProgress_cases memory machine message with
    ⟨message', hreport, hline, hdata, hsome⟩ | ⟨hreport, hnone⟩ | ⟨hreport, hdata⟩
  · rw [hreport]
    exact hfinish message' hline hdata hsome
  · rw [hreport]
    exact .inl ⟨rfl, ⟨_, _, signalOf_response htype, ⟨_, hview, hrequest⟩, hfollows⟩, hnone⟩
  · rw [hreport]
    exact admits_noHeader (by simp) hdata

/-- The handlers of STOP and BARGE-IN-OCCURRED: the request in progress and the
selected pending ones are reported, and `finish` gets what is left. -/
theorem admits_report (finish : List MrcpMessage → MrcpMessage → Update State)
    (hfinish : ∀ message', message'.startLine = message.startLine →
      R.Admits machine message (.ok (finish (remaining active machine.queue) message'))) :
    R.Admits machine message (do
      let message ← reportInProgress memory machine message
      let (queue, message) ← pendingRequestsRemove memory machine.queue active message
      return finish queue message) := by
  apply admits_follow memory htype hactive hid hfollows
  intro message' hline hdata _
  rcases pendingRequestsRemove_cases memory machine.queue active message' with
    ⟨message'', hremove, hline'⟩ | ⟨hremove, hdata'⟩
  · rw [hremove]
    exact hfinish message'' (hline'.trans hline)
  · rw [hremove]
    exact admits_noHeader (by simp) (hdata.symm.trans hdata')

end

section Idle

variable [DecidableEq State] (idle : State) (hidle : R.Consistent idle none)
  (hbusy : R.busy idle none = false) (hlive : R.Live machine)
  (htype : message.startLine.messageType = .response)
include hidle hbusy hlive htype

/-- A response behind which nothing is in progress. -/
theorem idle_update (hline : message'.startLine = message.startLine) :
    let update := responseDispatch (stateChange idle
      { machine with queue := remaining active machine.queue } idle) message'
    R.Live update.machine ∧
      R.view update.machine = ⟨none, (R.view machine).isPending, none, false,
        (remaining active machine.queue).map requestOf⟩ ∧
      update.callbacks.filterMap Callback.emission = [.response (requestOf message)] := by
  have hsublist := remaining_sublist active machine.queue
  refine ⟨⟨hlive.active, ?_, fun pending hmem => hlive.queue pending (hsublist.subset hmem)⟩,
    ?_, ?_⟩
  · simpa [responseDispatch, stateChange] using hidle
  · simp [view, responseDispatch, stateChange, hbusy]
  · exact responseDispatch_emissions hlive.active (by rw [hline, htype]) (requestOf_congr hline)

variable (hactive : machine.activeRequest = some active)
  (hid : active.requestId = message.requestId)
include hactive hid

/-- A response that ends the request in progress, as BARGE-IN-OCCURRED does. -/
theorem admits_barged (hbarge : message.startLine.methodId ∈ R.methods.bargeIn)
    (hline : message'.startLine = message.startLine) :
    R.Admits machine message (.ok (responseDispatch (stateChange idle
      { machine with queue := remaining active machine.queue } idle) message')) := by
  obtain ⟨hview, hrequest⟩ := view_awaits (R := R) hactive hid
  obtain ⟨hlive', hview', hemission⟩ := idle_update idle hidle hbusy hlive htype hline
  exact .ok (signalOf_response htype) hlive' hview' hemission
    (.barged _ _ _ _ _ hview hrequest hbarge
      ((remaining_sublist active machine.queue).map requestOf))

/-- A response that ends the request in progress and lets the next one go, as
STOP does. -/
theorem admits_stopped (hstop : message.startLine.methodId = R.methods.stop)
    (hline : message'.startLine = message.startLine) :
    R.Admits machine message (.ok (processPending (responseDispatch (stateChange idle
      { machine with queue := remaining active machine.queue } idle) message'))) := by
  obtain ⟨hview, hrequest⟩ := view_awaits (R := R) hactive hid
  obtain ⟨hlive', hview', hemission⟩ := idle_update idle hidle hbusy hlive htype hline
  refine ⟨processPending_live hlive', ?_⟩
  rw [signalOf_response htype, processPending_view, processPending_emissions hlive', hview',
    hemission]
  exact Effect.stopped _ _ _ _ _ hview hrequest hstop
    ((remaining_sublist active machine.queue).map requestOf)

end Idle

end Responses

/-! ## Events -/

section Events

variable {machine machine' : StateMachine State} {message : MrcpMessage}

theorem not_stores (hnone : ∀ stored, machine.inProgress = some stored →
    stored.requestId ≠ message.requestId) : ¬ (R.view machine).Stores (requestOf message) := by
  rintro ⟨_, hstored, hid⟩
  obtain ⟨stored, hsome, rfl⟩ := Option.map_eq_some_iff.mp hstored
  exact hnone stored hsome hid

theorem stops_iff (machine : StateMachine State) {stop : Nat}
    (hstop : R.methods.stop = stop) :
    (R.view machine).Stops R.methods ↔ waitsForStop machine stop = true := by
  unfold View.Stops waitsForStop
  rw [hstop]
  cases hactive : machine.activeRequest with
  | none => simp [view, hactive]
  | some active => simp [view, hactive, requestOf]

/-- A completion event: the request is no longer in progress in `machine'`. -/
theorem admits_completed {resource : MrcpResource} {stored : MrcpMessage}
    (htype : message.startLine.messageType = .event)
    (hstored : machine.inProgress = some stored)
    (hid : stored.requestId = message.requestId)
    (hcompletion : message.startLine.methodId = R.methods.completion)
    (hstop : ¬ (R.view machine).Stops R.methods) (hlive' : R.Live machine')
    (hview' : R.view machine' = { R.view machine with
      stored := if R.methods.keeps then some (requestOf stored) else none
      busy := false }) :
    R.Admits machine message (do
      let message ← completionCauseDefault resource message
      return processPending (eventDispatch machine' message)) := by
  apply admits_cause
  intro message' hline
  have hdispatch : eventDispatch machine' message' =
      ⟨machine', [.onDispatch message'], true⟩ := by
    simp [eventDispatch, hlive'.active]
  have hemission : emissionOf message' = .event (requestOf message) := by
    rw [emissionOf, hline, htype, requestOf_congr hline]
  rw [hdispatch]
  refine ⟨processPending_live hlive', ?_⟩
  rw [signalOf_event htype, processPending_view, processPending_emissions hlive']
  show Effect _ _ _ (R.view machine').pop.1 (emissionOf message' :: (R.view machine').pop.2)
  rw [hemission, hview']
  apply Effect.completed
  · simp [view, hstored]
  · exact hid
  · exact hcompletion
  · exact hstop

variable (hlive : R.Live machine) (htype : message.startLine.messageType = .event)
include hlive htype

theorem admits_ignoredEvent
    (h : R.methods.eventCount ≤ (requestOf message).method ∨
      ((requestOf message).method = R.methods.marker ∨
        (requestOf message).method = R.methods.completion) ∧
        ¬ (R.view machine).Stores (requestOf message) ∨
      (requestOf message).method = R.methods.completion ∧ (R.view machine).Stops R.methods) :
    R.Admits machine message (.ok (unexpected machine)) :=
  .ok (signalOf_event htype) hlive rfl rfl (.ignoredEvent _ _ h)

/-- An event that is passed on. -/
theorem admits_forward (hcompletion : message.startLine.methodId ≠ R.methods.completion)
    (hmarker : message.startLine.methodId = R.methods.marker → (R.view machine).Stores (requestOf
      message))
    (hmessage : message'.startLine.messageType = .event)
    (hrequest : requestOf message' = requestOf message) :
    R.Admits machine message (.ok (eventDispatch machine message')) := by
  have hemission : emissionOf message' = .event (requestOf message) := by
    rw [emissionOf, hmessage, hrequest]
  simp only [eventDispatch, hlive.active]
  exact .ok (signalOf_event htype) hlive rfl (congrArg (fun e => [e]) hemission)
    (.forwarded _ _ hcompletion hmarker)

/-- The event that opens the request in progress. -/
theorem admits_marker (hmarker : message.startLine.methodId = R.methods.marker) :
    R.Admits machine message (.ok (match machine.inProgress with
      | none => unexpected machine
      | some stored =>
        if stored.requestId ≠ message.requestId then unexpected machine
        else eventDispatch machine (setRequestState message .inProgress))) := by
  refine matched_cases (P := fun update => R.Admits machine message (.ok update))
    (fun hnone => ?_) (fun stored hstored hid => ?_)
  · exact admits_ignoredEvent hlive htype (.inr (.inl ⟨.inl hmarker, not_stores hnone⟩))
  · exact admits_forward hlive htype (fun h => R.methods.marker_ne (hmarker.symm.trans h))
      (fun _ => (view_stores_iff hstored).mpr hid) htype rfl

/-- The event that completes the request in progress, unless a STOP waits for its
response. -/
theorem admits_completion {resource : MrcpResource} {stop : Nat} (hstop : R.methods.stop = stop)
    (hcompletion : message.startLine.methodId = R.methods.completion)
    (hnext : ∀ stored, machine.inProgress = some stored → R.Live machine' ∧
      R.view machine' = { R.view machine with
        stored := if R.methods.keeps then some (requestOf stored) else none
        busy := false }) :
    R.Admits machine message (match machine.inProgress with
      | none => .ok (unexpected machine)
      | some stored =>
        if stored.requestId ≠ message.requestId then .ok (unexpected machine)
        else if waitsForStop machine stop then .ok (unexpected machine)
        else do
          let message ← completionCauseDefault resource message
          return processPending (eventDispatch machine' message)) := by
  refine matched_cases (fun hnone => ?_)
    (fun stored hstored hid => ?_)
  · exact admits_ignoredEvent hlive htype (.inr (.inl ⟨.inr hcompletion, not_stores hnone⟩))
  · split
    · next hwaits =>
      exact admits_ignoredEvent hlive htype
        (.inr (.inr ⟨hcompletion, (stops_iff machine hstop).mpr hwaits⟩))
    · next hwaits =>
      obtain ⟨hlive', hview'⟩ := hnext stored hstored
      exact admits_completed htype hstored hid hcompletion
        (fun h => hwaits ((stops_iff machine hstop).mp h)) hlive' hview'

end Events

end UniMrcp.Engine.Resource
