import UniMrcp.Lib.Runs
import UniMrcp.Transport.Client
import UniMrcp.Transport.SendLoop

/-!
# Requests of a client and their answers

A channel has one request outstanding at a time.  The request is answered by
the response of the server, by its timeout, by the end of the connection or,
if it could not be sent, at once.  `Completed` says what a channel should see
of this: after each request one answer to it, before the next request.

The channels see this in every run, and a request timer is set only while its
channel waits, as long as no timer that is set has a `scheduled_time` of 0
when it is killed: `apt_timer_kill` takes such a timer for one that is not
set, and leaves it in the queue (`requestsOk_iff`).
-/

namespace UniMrcp.Transport

open UniMrcp.Lib UniMrcp.Apt UniMrcp.Mrcp

/-! ## What a channel sees -/

/-- A response to a request. -/
def Answers (request response : MrcpMessage) : Prop :=
  response.startLine.messageType = .response ∧ response.requestId = request.requestId

/-- Every request has been answered once, before the next. -/
inductive Completed : List ChannelEvent → Prop where
  | nil : Completed []
  | answered {history : List ChannelEvent} {request response : MrcpMessage} :
      Completed history → Answers request response →
      Completed (history ++ [.sent request, .received response])

/-- Requests and responses; events of a request are none of these. -/
def isRequestEvent : ChannelEvent → Bool
  | .sent _ => true
  | .received message => message.startLine.messageType == .response
  | .disconnected => false

section

variable (connection : ClientConnection) (step : ClientStep MrcpMessage)

/-- The requests of a channel and the responses it got. -/
def requestHistory (channel : Nat) : List ChannelEvent :=
  (connection.trace.filter (fun e => e.1 == channel && isRequestEvent e.2)).map Prod.snd

/-- All requests of the channel are completed, except the one that is
active. -/
def ChannelOk (channel : Nat) : Prop :=
  match connection.activeRequest channel with
  | none => Completed (requestHistory connection channel)
  | some active => ∃ history request, Completed history ∧
      requestHistory connection channel = history ++ [.sent request] ∧
      active.requestId = request.requestId

/-- The requests of all channels are in order, and a timer is set only while
its channel has a request outstanding. -/
structure RequestsOk (connection : ClientConnection) : Prop where
  channel : ∀ channel, ChannelOk connection channel
  timer : ∀ channel ∈ connection.timers.ring, connection.activeRequest channel ≠ none

/-! ## Runs -/

/-- A step of the agent's task, and what it returns. -/
def clientStep : ClientStep MrcpMessage → Option (ClientConnection × Bool)
  | .task step => taskStep connection step
  | .received message =>
    if connection.sock then
      some (mrcpClientMessageHandler connection .complete (some message))
    else none

/-- The connection after a step. -/
def clientNext : Option ClientConnection :=
  (clientStep connection step).map Prod.fst

/-- A connection with channels that have not sent anything. -/
def connected (identifiers : List Bytes) (hdistinct : identifiers.Nodup)
    (requestTimeout : UInt32) (txBufferSize : Nat) : ClientConnection where
  sock := true
  channels := identifiers.map (fun identifier => ⟨identifier, none⟩)
  distinct := by simpa [Function.comp_def] using hdistinct
  timers := aptTimerQueueCreate Nat
  requestTimeout := requestTimeout
  txBufferSize := txBufferSize
  trace := []

/-- A channel sends a request only while none is outstanding. -/
def OneOutstanding : ClientStep MrcpMessage → Prop
  | .task (.send _ _ _ channel _) => connection.activeRequest channel = none
  | _ => True

/-- If the timer of the channel is set, `apt_timer_kill` sees that it is. -/
def TimerVisible (channel : Nat) : Prop :=
  channel ∈ connection.timers.ring → connection.timers.scheduledTime channel ≠ 0

/-- The message is the response the channel waits for. -/
def Matches (message : MrcpMessage) (channel : Nat) : Prop :=
  messageChannel connection message = some channel ∧
    message.startLine.messageType = .response ∧
    (connection.activeRequest channel).map MrcpMessage.requestId = some message.requestId

/-- The timers that the step kills are not set with a `scheduled_time`
of 0. -/
def KillOk : ClientStep MrcpMessage → Prop
  | .received message => ∀ channel < connection.channels.length,
      Matches connection message channel → TimerVisible connection channel
  | .task .disconnect => ∀ channel < connection.channels.length,
      connection.activeRequest channel ≠ none → TimerVisible connection channel
  | _ => True

/-- The step has processed a failed send, the response, the timeout or the
disconnect of the channel's request. -/
def Settles (result : ClientConnection × Bool) (channel : Nat) : Prop :=
  match step with
  | .task (.send _ _ _ sender _) => sender = channel ∧ result.2 = false
  | .received message => Matches connection message channel
  | .task (.advance _) =>
    channel ∈ connection.timers.ring ∧ channel ∉ result.1.timers.ring
  | .task .disconnect => True

/-- What a step settles is answered as soon as the step is done. -/
def SettlesOk : Prop :=
  ∀ result, clientStep connection step = some result → ∀ channel,
    Settles connection step result channel → Completed (requestHistory result.1 channel)

end

/-! ## Single updates -/

variable {channel : Nat} {request message message' : MrcpMessage}
  {connection connection' : ClientConnection}

section Updates

theorem activeRequest_setActiveRequest_none (channel i : Nat) :
    (connection.setActiveRequest channel none).activeRequest i =
      if i = channel then none else connection.activeRequest i := by
  simp only [ClientConnection.activeRequest, ClientConnection.setActiveRequest,
    List.getElem?_modify]
  cases connection.channels[i]? with
  | none => simp
  | some c =>
    by_cases h : channel = i
    · simp [h]
    · simp [h, Ne.symm h]

/-- A request that has been sent. -/
def ClientConnection.outstanding (connection : ClientConnection) (channel : Nat)
    (message message' : MrcpMessage) : ClientConnection :=
  (connection.record channel (.sent message)).setActiveRequest channel (some message')

theorem activeRequest_outstanding (hchannel : channel < connection.channels.length) (i : Nat) :
    (connection.outstanding channel message message').activeRequest i =
      if i = channel then some message' else connection.activeRequest i := by
  simp only [ClientConnection.activeRequest, ClientConnection.outstanding,
    ClientConnection.setActiveRequest, ClientConnection.record, List.getElem?_modify]
  by_cases h : channel = i
  · subst h
    simp [List.getElem?_eq_getElem hchannel]
  · simp only [h, Ne.symm h]
    cases connection.channels[i]? <;> rfl

theorem requestHistory_record (channel : Nat) (event : ChannelEvent) (i : Nat) :
    requestHistory (connection.record channel event) i =
      if channel = i ∧ isRequestEvent event = true then
        requestHistory connection i ++ [event]
      else requestHistory connection i := by
  simp only [requestHistory, ClientConnection.record]
  by_cases h : channel = i ∧ isRequestEvent event = true
  · simp [h.1, h.2]
  · rw [if_neg h]
    have hfalse : (channel == i && isRequestEvent event) = false := by
      simpa using h
    simp [hfalse]

/-- A response created for a request answers it. -/
theorem answers_cancel (request : MrcpMessage) (statusCode : UInt32) :
    Answers request { mrcpResponseCreate request with
      startLine := { (mrcpResponseCreate request).startLine with
        statusCode := statusCode } } := by
  unfold mrcpResponseCreate
  cases request.resource with
  | none => exact ⟨rfl, rfl⟩
  | some resource => exact ⟨rfl, rfl⟩

theorem isRequestEvent_of_answers {response : MrcpMessage}
    (h : Answers request response) : isRequestEvent (.received response) = true := by
  rw [isRequestEvent, h.1]
  rfl

end Updates

theorem Completed.of_channelOk (h : ChannelOk connection channel)
    (hidle : connection.activeRequest channel = none) :
    Completed (requestHistory connection channel) := by
  unfold ChannelOk at h
  rw [hidle] at h
  exact h

/-! ## The end of a request -/

/-- Between the two states the channel's request has been answered, and nothing
has happened to the others. -/
structure Finished (connection connection' : ClientConnection) (channel : Nat)
    (request : MrcpMessage) : Prop where
  active : ∀ i, connection'.activeRequest i =
    if i = channel then none else connection.activeRequest i
  history : ∃ response, Answers request response ∧ ∀ i, requestHistory connection' i =
    if i = channel then requestHistory connection i ++ [.received response]
    else requestHistory connection i

section Finished

theorem Finished.idle (h : Finished connection connection' channel request) :
    connection'.activeRequest channel = none :=
  (h.active channel).trans (if_pos rfl)

section

variable (hactive : ∀ i, connection'.activeRequest i =
  if i = channel then none else connection.activeRequest i)
include hactive

theorem finished_record {response : MrcpMessage} (hanswers : Answers request response)
    (htrace : connection'.trace = connection.trace ++ [(channel, .received response)]) :
    Finished connection connection' channel request := by
  refine ⟨hactive, response, hanswers, fun i => ?_⟩
  have hrecord : requestHistory connection' i =
      requestHistory (connection.record channel (.received response)) i := by
    rw [requestHistory, htrace]
    rfl
  rw [hrecord, requestHistory_record]
  by_cases h : i = channel
  · rw [if_pos ⟨h.symm, isRequestEvent_of_answers hanswers⟩, if_pos h]
  · rw [if_neg (fun hc => h hc.1.symm), if_neg h]

/-- The client makes up a response to a request it cancels. -/
theorem finished_cancel (htrace : connection'.trace =
    (mrcpClientAgentRequestCancel connection channel request).trace) :
    Finished connection connection' channel request :=
  finished_record hactive (answers_cancel request statusCodeMethodFailed) htrace

end

/-- The request is completed, and the others are as they were. -/
theorem Finished.channelOk (h : Finished connection connection' channel request)
    (hactive : connection.activeRequest channel = some request)
    (hok : ∀ i, ChannelOk connection i) : ∀ i, ChannelOk connection' i := by
  obtain ⟨response, hanswers, hhistory⟩ := h.history
  intro i
  have hi := hok i
  unfold ChannelOk at hi ⊢
  rw [h.active, hhistory]
  by_cases heq : i = channel
  · subst heq
    rw [hactive] at hi
    obtain ⟨history, sent, hcompleted, hsent, hid⟩ := hi
    rw [if_pos rfl, if_pos rfl, hsent, List.append_assoc]
    exact hcompleted.answered ⟨hanswers.1, hanswers.2.trans hid⟩
  · rw [if_neg heq, if_neg heq]
    exact hi

theorem finished_timerProc (hactive : connection.activeRequest channel = some request) :
    Finished connection (mrcpClientTimerProc connection channel) channel request := by
  have hproc : mrcpClientTimerProc connection channel =
      (mrcpClientAgentRequestCancel connection channel request).setActiveRequest channel none := by
    rw [mrcpClientTimerProc, hactive]
  rw [hproc]
  exact finished_cancel (fun i => activeRequest_setActiveRequest_none channel i) rfl

theorem finished_channelDisconnect (hactive : connection.activeRequest channel = some request) :
    Finished connection (channelDisconnect connection channel) channel request := by
  have hdisconnect : channelDisconnect connection channel = requestTimerKill
      ((mrcpClientAgentRequestCancel connection channel request).setActiveRequest channel none)
      channel := by
    rw [channelDisconnect, hactive]
  rw [hdisconnect]
  exact finished_cancel (fun i => activeRequest_setActiveRequest_none channel i) rfl

theorem finished_response (hanswers : Answers request message) :
    Finished connection (mrcpConnectionMessageReceive
      ((requestTimerKill connection channel).setActiveRequest channel none) channel message)
      channel request :=
  finished_record (fun i => activeRequest_setActiveRequest_none channel i) hanswers rfl

end Finished

/-! ## Timers -/

section Timers

/-- What is kept over a step: the timers in the queue besides. -/
structure ClientInv (connection : ClientConnection) : Prop extends RequestsOk connection where
  nodup : connection.timers.ring.Nodup

/-- A request is answered and its timer taken out of the queue. -/
theorem ClientInv.finished (h : ClientInv connection)
    (hactive : connection.activeRequest channel = some request)
    (hfinished : Finished connection connection' channel request)
    (hsub : connection'.timers.ring.Sublist connection.timers.ring)
    (hring : channel ∉ connection'.timers.ring) : ClientInv connection' where
  channel := hfinished.channelOk hactive h.channel
  timer i hi := by
    have hne : i ≠ channel := fun heq => hring (heq ▸ hi)
    rw [hfinished.active, if_neg hne]
    exact h.timer i (hsub.subset hi)
  nodup := h.nodup.sublist hsub

/-- What is no request and no response does not count. -/
theorem ClientInv.record (h : ClientInv connection) (channel : Nat) {event : ChannelEvent}
    (hevent : isRequestEvent event = false) : ClientInv (connection.record channel event) := by
  refine ⟨⟨fun i => ?_, h.timer⟩, h.nodup⟩
  have hhistory : requestHistory (connection.record channel event) i =
      requestHistory connection i := by
    rw [requestHistory_record, hevent]
    exact if_neg (fun hc => Bool.false_ne_true hc.2)
  have hi := h.channel i
  unfold ChannelOk at hi ⊢
  rw [hhistory]
  exact hi

theorem requestTimerKill_ring (connection : ClientConnection) (channel : Nat) :
    (requestTimerKill connection channel).timers.ring =
      if connection.timers.scheduledTime channel = 0 then connection.timers.ring
      else connection.timers.ring.erase channel :=
  ring_aptTimerKill

theorem requestTimerKill_scheduledTime (connection : ClientConnection) (channel i : Nat) :
    (requestTimerKill connection channel).timers.scheduledTime i =
      if i = channel then 0 else connection.timers.scheduledTime i :=
  congrFun scheduledTime_aptTimerKill i

/-- Killing a timer takes it out of the queue, if it can be seen there. -/
theorem requestTimerKill_killed (hnodup : connection.timers.ring.Nodup)
    (hvisible : TimerVisible connection channel) :
    (requestTimerKill connection channel).timers.ring.Sublist connection.timers.ring ∧
      channel ∉ (requestTimerKill connection channel).timers.ring := by
  rw [requestTimerKill_ring]
  by_cases hzero : connection.timers.scheduledTime channel = 0
  · rw [if_pos hzero]
    exact ⟨List.Sublist.refl _, fun hmem => hvisible hmem hzero⟩
  · rw [if_neg hzero]
    exact ⟨List.erase_sublist, hnodup.not_mem_erase⟩

/-- A timer whose `scheduled_time` is 0 stays in the queue. -/
theorem requestTimerKill_stays (channel : Nat) {i : Nat} (hmem : i ∈ connection.timers.ring)
    (hzero : connection.timers.scheduledTime i = 0) :
    i ∈ (requestTimerKill connection channel).timers.ring ∧
      (requestTimerKill connection channel).timers.scheduledTime i = 0 := by
  rw [requestTimerKill_ring, requestTimerKill_scheduledTime]
  constructor
  · split
    · exact hmem
    · rename_i hne
      have : i ≠ channel := by rintro rfl; exact hne hzero
      exact (List.mem_erase_of_ne this).mpr hmem
  · split
    · rfl
    · exact hzero

end Timers

/-! ## Sending -/

section

variable (line : StartLine) (memory : Nat → UInt8) (message : MrcpMessage) (stream : TxStream)

/-- The generator does not touch the request id. -/
theorem mrcpStartLineGenerate_requestId :
    (mrcpStartLineGenerate line stream).2.1.requestId = line.requestId := by
  unfold mrcpStartLineGenerate
  split
  · split <;> rfl
  · rfl
  · rfl

theorem mrcpStartLineFinalize_requestId (contentLength : Nat) (stream : TxStream) :
    (mrcpStartLineFinalize line contentLength stream).2.1.requestId = line.requestId := by
  unfold mrcpStartLineFinalize
  dsimp only
  split
  · split <;> rfl
  · rfl

theorem mrcpMessageValidate_startLine :
    (mrcpMessageValidate memory message).2.startLine = message.startLine := by
  obtain ⟨header, hkeeps, -⟩ := mrcpMessageValidate_eq memory message
  rw [hkeeps]

theorem generatedHeader_requestId :
    (generatedHeader memory message stream).2.1.requestId = message.requestId := by
  have hline := mrcpMessageValidate_startLine memory message
  have hgen := mrcpStartLineGenerate_requestId message.startLine stream
  unfold generatedHeader
  generalize mrcpMessageValidate memory message = validated at hline ⊢
  obtain ⟨_ | _, valid⟩ := validated
  · exact congrArg StartLine.requestId hline
  · dsimp only at hline ⊢
    rw [hline]
    generalize mrcpStartLineGenerate message.startLine stream = generated at hgen ⊢
    obtain ⟨_ | _, line, s⟩ := generated
    · exact hgen
    · exact hgen

theorem mrcpGeneratorRun_requestId (stage : GeneratorStage)
    (message : MrcpMessage) (stream : TxStream) :
    (mrcpGeneratorRun memory stage message stream).message.requestId = message.requestId := by
  have hbody : ∀ (m : MrcpMessage) (written : Nat) (stream : TxStream),
      (generatorBodyStage (mrcpGeneratorVtable memory) m written stream).message = m := by
    intro m written stream
    unfold generatorBodyStage
    split <;> rfl
  cases stage with
  | body written => exact congrArg MrcpMessage.requestId (hbody message written stream)
  | startLine =>
    have hheader := generatedHeader_requestId memory message stream
    rw [mrcpGeneratorRun_eq]
    generalize generatedHeader memory message stream = generated at hheader ⊢
    obtain ⟨_ | _, m, s⟩ := generated
    · exact hheader
    · have hfinal := (mrcpStartLineFinalize_requestId m.startLine m.body.length s).trans hheader
      dsimp only [mrcpGeneratorOnHeaderComplete]
      split
      · exact hfinal
      · rw [hbody]
        exact hfinal

end

theorem clientSendLoop_requestId {memory : Nat → UInt8} {size : Nat} {socket : Nat → Bool}
    {passes : Nat} {stage : GeneratorStage} {status status' : Bool}
    (h : clientSendLoop memory size socket passes stage message status = some (status', message')) :
    message'.requestId = message.requestId := by
  induction passes generalizing stage message status with
  | zero => cases h
  | succ passes ih =>
    rw [clientSendLoop] at h
    have hrun := mrcpGeneratorRun_requestId memory stage message ⟨[], size⟩
    split at h
    · exact (ih h).trans hrun
    · obtain ⟨-, rfl⟩ := Prod.mk.inj (Option.some.inj h)
      exact hrun

section Send

theorem requestHistory_outstanding (i : Nat) :
    requestHistory (connection.outstanding channel message message') i =
      if i = channel then requestHistory connection i ++ [.sent message]
      else requestHistory connection i := by
  refine (requestHistory_record channel (.sent message) i).trans ?_
  by_cases h : i = channel
  · rw [if_pos ⟨h.symm, rfl⟩, if_pos h]
  · rw [if_neg (fun hc => h hc.1.symm), if_neg h]

section

variable (hidle : connection.activeRequest channel = none)
  (hchannel : channel < connection.channels.length)
include hidle hchannel

/-- A request that is sent is outstanding. -/
theorem channelOk_sent (h : ∀ i, ChannelOk connection i)
    (hid : message'.requestId = message.requestId) :
    ∀ i, ChannelOk (connection.outstanding channel message message') i := by
  intro i
  have hi := h i
  unfold ChannelOk at hi ⊢
  rw [activeRequest_outstanding hchannel, requestHistory_outstanding]
  by_cases heq : i = channel
  · subst heq
    rw [hidle] at hi
    rw [if_pos rfl, if_pos rfl]
    exact ⟨_, message, hi, rfl, hid⟩
  · rw [if_neg heq, if_neg heq]
    exact hi

/-- A request that is not sent is answered at once. -/
theorem ClientInv.refused (h : ClientInv connection)
    (hid : message'.requestId = message.requestId) :
    ClientInv (mrcpClientAgentRequestCancel (connection.record channel (.sent message))
      channel message') ∧
    Completed (requestHistory (mrcpClientAgentRequestCancel
      (connection.record channel (.sent message)) channel message') channel) := by
  -- the channel sees what it would see of a request that is outstanding
  have hfinished : Finished (connection.outstanding channel message message')
      (mrcpClientAgentRequestCancel (connection.record channel (.sent message)) channel message')
      channel message' := by
    refine finished_cancel (fun i => ?_) rfl
    rw [activeRequest_outstanding hchannel]
    split
    · rename_i hi
      rw [hi]
      exact hidle
    · rfl
  have hok := hfinished.channelOk ((activeRequest_outstanding hchannel channel).trans (if_pos rfl))
    (channelOk_sent hidle hchannel h.channel hid)
  exact ⟨⟨⟨hok, h.timer⟩, h.nodup⟩, Completed.of_channelOk (hok channel) hfinished.idle⟩

/-- A send leaves the requests in order, and answers the request if it
fails. -/
theorem ClientInv.send (h : ClientInv connection) {memory : Nat → UInt8} {socket : Nat → Bool}
    {passes : Nat} {status : Bool}
    (hsend : mrcpClientAgentMessageSend memory socket passes connection channel message =
      some (connection', status)) :
    ClientInv connection' ∧
      (status = false → Completed (requestHistory connection' channel)) := by
  unfold mrcpClientAgentMessageSend at hsend
  dsimp only at hsend
  split at hsend
  · cases hsend
    obtain ⟨hinv, hcompleted⟩ := h.refused hidle hchannel
      (rfl : message.requestId = message.requestId)
    exact ⟨hinv, fun _ => hcompleted⟩
  · split at hsend
    · cases hsend
    · rename_i message' hloop
      have hok := channelOk_sent hidle hchannel h.channel (clientSendLoop_requestId hloop)
      have hactive_ne : ∀ i, (i = channel ∨ i ∈ connection.timers.ring) →
          (connection.outstanding channel message message').activeRequest i ≠ none := by
        intro i hi
        rw [activeRequest_outstanding hchannel]
        split
        · exact Option.some_ne_none _
        · exact h.timer i (hi.resolve_left (by assumption))
      -- the timer is not set before, because the channel was idle
      have hring : channel ∉ connection.timers.ring := fun hmem => h.timer channel hmem hidle
      split at hsend
      · cases hsend
        refine ⟨⟨⟨hok, fun i hi => ?_⟩, nodup_ring_aptTimerSet h.nodup hring⟩, by simp⟩
        exact hactive_ne i ((mem_ring_aptTimerSet.mp hi).imp_left And.left)
      · cases hsend
        exact ⟨⟨⟨hok, fun i hi => hactive_ne i (.inr hi)⟩, h.nodup⟩, by simp⟩
    · rename_i message' hloop
      cases hsend
      obtain ⟨hinv, hcompleted⟩ := h.refused hidle hchannel (clientSendLoop_requestId hloop)
      exact ⟨hinv, fun _ => hcompleted⟩

end

end Send

/-! ## Timeouts -/

/-- While the timers are advanced: the timers that were set at the `start` are
still set, or have fired. -/
structure Advancing (start connection : ClientConnection) : Prop extends
    ClientInv connection where
  fired : ∀ i ∈ start.timers.ring,
    i ∈ connection.timers.ring ∨ connection.activeRequest i = none

/-- A timer fires. -/
theorem Advancing.fire {start : ClientConnection} (h : Advancing start connection) {timer : Nat}
    {ring : List Nat} (hcons : connection.timers.ring = timer :: ring) :
    Advancing start (mrcpClientTimerProc (connection.setTimers
      { connection.timers.schedule timer 0 with ring := ring }) timer) := by
  -- its channel has a request because the timer was set
  obtain ⟨request, hactive⟩ := Option.ne_none_iff_exists'.mp
    (h.timer timer (by rw [hcons]; exact List.mem_cons_self))
  have hnodup : (timer :: ring).Nodup := hcons ▸ h.nodup
  have hset : (connection.setTimers { connection.timers.schedule timer 0 with
      ring := ring }).activeRequest timer = some request := hactive
  have hproc := finished_timerProc hset
  have hfinished : Finished connection _ timer request :=
    ⟨hproc.active, hproc.history⟩
  have hring : (mrcpClientTimerProc (connection.setTimers
      { connection.timers.schedule timer 0 with ring := ring }) timer).timers.ring = ring := by
    unfold mrcpClientTimerProc
    split <;> rfl
  refine ⟨h.toClientInv.finished hactive hfinished ?_ ?_, fun i hi => ?_⟩
  · rw [hring, hcons]
    exact List.sublist_cons_self _ _
  · rw [hring]
    exact (List.nodup_cons.mp hnodup).1
  · rw [hring, hfinished.active]
    by_cases heq : i = timer
    · exact .inr (if_pos heq)
    · rw [if_neg heq]
      refine (h.fired i hi).imp_left (fun hmem => ?_)
      rw [hcons] at hmem
      exact (List.mem_cons.mp hmem).resolve_left heq

/-- Advancing the timers leaves the requests in order, and a timer that has
left the queue has fired. -/
theorem ClientInv.advance (h : ClientInv connection) (elapsedTime : UInt32) :
    Advancing connection (clientTimersAdvance connection elapsedTime) := by
  unfold clientTimersAdvance aptTimerQueueAdvance
  split
  · exact ⟨h, fun i hi => .inl hi⟩
  · have hring := ring_elapsedTimeAdd connection.timers elapsedTime
    have hstart : Advancing connection
        (connection.setTimers (elapsedTimeAdd connection.timers elapsedTime)) := by
      refine ⟨⟨⟨h.channel, fun i hi => h.timer i ?_⟩, ?_⟩, fun i hi => .inl ?_⟩
      · rw [← hring]
        exact hi
      · show (elapsedTimeAdd connection.timers elapsedTime).ring.Nodup
        rw [hring]
        exact h.nodup
      · show i ∈ (elapsedTimeAdd connection.timers elapsedTime).ring
        rw [hring]
        exact hi
    exact timerLoop_invariant (fun c timer ring hc hcons => hc.fire hcons) _ _ hstart

/-! ## The end of the connection -/

section Disconnect

theorem channelDisconnect_idle (hidle : connection.activeRequest channel = none) :
    channelDisconnect connection channel = connection.record channel .disconnected := by
  rw [channelDisconnect, hidle]

theorem channelDisconnect_active (hactive : connection.activeRequest channel = some request) :
    (channelDisconnect connection channel).timers =
      (requestTimerKill connection channel).timers := by
  rw [channelDisconnect, hactive]
  rfl

/-- A channel that is told has no request. -/
theorem activeRequest_channelDisconnect (channel i : Nat) :
    (channelDisconnect connection channel).activeRequest i =
      if i = channel then none else connection.activeRequest i := by
  cases hactive : connection.activeRequest channel with
  | none =>
    rw [channelDisconnect_idle hactive]
    split
    · rename_i heq
      rw [heq]
      exact hactive
    · rfl
  | some request => exact (finished_channelDisconnect hactive).active i

/-- One channel is told, and the timers of the others can be seen as before. -/
theorem ClientInv.channelDisconnect (h : ClientInv connection)
    (hvisible : ∀ i, connection.activeRequest i ≠ none → TimerVisible connection i)
    (channel : Nat) :
    ClientInv (channelDisconnect connection channel) ∧
      ∀ i, (channelDisconnect connection channel).activeRequest i ≠ none →
        TimerVisible (channelDisconnect connection channel) i := by
  cases hactive : connection.activeRequest channel with
  | none =>
    rw [channelDisconnect_idle hactive]
    exact ⟨h.record channel rfl, hvisible⟩
  | some request =>
    have htimers := channelDisconnect_active hactive
    have hkill := requestTimerKill_killed h.nodup
      (hvisible channel (by rw [hactive]; exact Option.some_ne_none _))
    refine ⟨h.finished hactive (finished_channelDisconnect hactive) ?_ ?_, ?_⟩
    · rw [htimers]
      exact hkill.1
    · rw [htimers]
      exact hkill.2
    · intro i hi hmem
      rw [activeRequest_channelDisconnect] at hi
      rw [htimers] at hmem ⊢
      have hne : i ≠ channel := fun heq => hkill.2 (heq ▸ hmem)
      rw [if_neg hne] at hi
      rw [requestTimerKill_scheduledTime, if_neg hne]
      exact hvisible i hi (hkill.1.subset hmem)

theorem ClientInv.disconnectAll (channels : List Nat) (h : ClientInv connection)
    (hvisible : ∀ i, connection.activeRequest i ≠ none → TimerVisible connection i) :
    ClientInv (channels.foldl UniMrcp.Transport.channelDisconnect connection) := by
  induction channels generalizing connection with
  | nil => exact h
  | cons channel channels ih =>
    obtain ⟨h', hvisible'⟩ := h.channelDisconnect hvisible channel
    exact ih h' hvisible'

/-- The channels that are told have no request. -/
theorem activeRequest_disconnectAll (channels : List Nat) {i : Nat}
    (hi : i ∈ channels ∨ connection.activeRequest i = none) :
    (channels.foldl channelDisconnect connection).activeRequest i = none := by
  induction channels generalizing connection with
  | nil => exact hi.resolve_left (by simp)
  | cons channel channels ih =>
    apply ih
    rw [activeRequest_channelDisconnect]
    by_cases heq : i = channel
    · exact .inr (if_pos heq)
    · rw [if_neg heq]
      exact hi.imp_left (fun hmem => (List.mem_cons.mp hmem).resolve_left heq)

/-- A timer that cannot be seen stays in the queue. -/
theorem disconnectAll_stays (connection : ClientConnection) (channels : List Nat) {i : Nat}
    (hmem : i ∈ connection.timers.ring) (hzero : connection.timers.scheduledTime i = 0) :
    i ∈ (channels.foldl channelDisconnect connection).timers.ring := by
  induction channels generalizing connection with
  | nil => exact hmem
  | cons channel channels ih =>
    cases hactive : connection.activeRequest channel with
    | none =>
      rw [List.foldl_cons, channelDisconnect_idle hactive]
      exact ih _ hmem hzero
    | some request =>
      have hstays := requestTimerKill_stays channel hmem hzero
      rw [← channelDisconnect_active hactive] at hstays
      exact ih _ hstays.1 hstays.2

theorem lt_of_activeRequest {i : Nat} (hi : connection.activeRequest i ≠ none) :
    i < connection.channels.length := by
  by_contra hge
  rw [ClientConnection.activeRequest, List.getElem?_eq_none (Nat.le_of_not_lt hge)] at hi
  exact hi rfl

/-- After the disconnect no channel has a request. -/
theorem activeRequest_clientDisconnect (i : Nat) :
    (clientDisconnect connection).activeRequest i = none := by
  apply activeRequest_disconnectAll
  by_cases hi : connection.activeRequest i = none
  · exact .inr hi
  · exact .inl (List.mem_range.mpr (lt_of_activeRequest hi))

end Disconnect

/-! ## Steps and runs -/

/-- The response a channel waits for is handed to it. -/
theorem Matches.handler (h : Matches connection message channel) :
    ∃ request, connection.activeRequest channel = some request ∧ Answers request message ∧
      mrcpClientMessageHandler connection .complete (some message) =
        (mrcpConnectionMessageReceive
          ((requestTimerKill connection channel).setActiveRequest channel none) channel
          message, true) := by
  obtain ⟨hchannel, htype, hid⟩ := h
  obtain ⟨request, hactive, hid⟩ := Option.map_eq_some_iff.mp hid
  refine ⟨request, hactive, ⟨htype, hid.symm⟩, ?_⟩
  simp [mrcpClientMessageHandler, hchannel, htype, hactive, hid]

/-- Handling a message leaves the requests in order. -/
theorem ClientInv.handler (h : ClientInv connection)
    (hkill : KillOk connection (.received message)) :
    ClientInv (mrcpClientMessageHandler connection .complete (some message)).1 := by
  rcases mrcpClientMessageHandler_cases connection message with
    ⟨-, heq⟩ | ⟨channel, -, htype, heq⟩ | ⟨channel, -, -, -, heq⟩ |
      ⟨channel, request, hchannel, htype, hactive, hid, heq⟩
  · rw [heq]
    exact h
  · -- an event is no answer
    rw [heq]
    exact h.record channel (by simpa [isRequestEvent] using htype)
  · rw [heq]
    exact h
  · rw [heq]
    have hmatches : Matches connection message channel :=
      ⟨hchannel, htype, by rw [hactive, Option.map_some, hid]⟩
    have hlength := lt_of_activeRequest (Option.ne_none_iff_exists'.mpr ⟨request, hactive⟩)
    have hring := requestTimerKill_killed h.nodup (hkill channel hlength hmatches)
    exact h.finished hactive (finished_response ⟨htype, hid.symm⟩) hring.1 hring.2

/-- One step leaves the requests in order and answers what it settles. -/
theorem ClientInv.step (h : ClientInv connection) {step : ClientStep MrcpMessage}
    (hone : OneOutstanding connection step) (hkill : KillOk connection step)
    {result : ClientConnection × Bool} (hstep : clientStep connection step = some result) :
    ClientInv result.1 ∧ ∀ channel, Settles connection step result channel →
      Completed (requestHistory result.1 channel) := by
  match step with
  | .received message =>
    rw [clientStep] at hstep
    split at hstep
    · cases hstep
      have hinv := h.handler hkill
      refine ⟨hinv, fun channel hmatches => ?_⟩
      obtain ⟨request, hactive, hanswers, heq⟩ := Matches.handler hmatches
      apply Completed.of_channelOk (hinv.channel channel)
      rw [heq]
      exact (finished_response hanswers).idle
    · cases hstep
  | .task (.send memory socket passes sender message) =>
    simp only [clientStep, taskStep] at hstep
    split at hstep
    · rename_i hsender
      obtain ⟨hinv, hcompleted⟩ := h.send hone hsender hstep
      refine ⟨hinv, ?_⟩
      rintro channel ⟨rfl, hfalse⟩
      exact hcompleted hfalse
    · cases hstep
  | .task (.advance elapsedTime) =>
    cases hstep
    have hadvance := h.advance elapsedTime
    refine ⟨hadvance.toClientInv, ?_⟩
    rintro channel ⟨hset, hunset⟩
    exact Completed.of_channelOk (hadvance.channel channel)
      ((hadvance.fired channel hset).resolve_left hunset)
  | .task .disconnect =>
    simp only [clientStep, taskStep] at hstep
    split at hstep
    · cases hstep
      have hvisible : ∀ i, connection.activeRequest i ≠ none → TimerVisible connection i :=
        fun i hi => hkill i (lt_of_activeRequest hi) hi
      have hinv : ClientInv (clientDisconnect connection) :=
        have hclosed : ClientInv { connection with sock := false } :=
          ⟨⟨h.channel, h.timer⟩, h.nodup⟩
        hclosed.disconnectAll _ hvisible
      exact ⟨hinv, fun channel _ => Completed.of_channelOk (hinv.channel channel)
        (activeRequest_clientDisconnect channel)⟩
    · cases hstep

/-- If the requests are in order after a step, the step has killed no timer
that it could not see: such a timer stays in the queue. -/
theorem killOk_of_requestsOk {step : ClientStep MrcpMessage}
    (h' : RequestsOk connection') (hnext : clientNext connection step = some connection') :
    KillOk connection step := by
  obtain ⟨result, hstep, rfl⟩ := Option.map_eq_some_iff.mp hnext
  cases step with
  | received message =>
    intro channel _ hmatches hmem hzero
    rw [clientStep] at hstep
    split at hstep
    · cases hstep
      obtain ⟨request, hactive, hanswers, heq⟩ := hmatches.handler
      rw [heq] at h'
      exact h'.timer channel (requestTimerKill_stays channel hmem hzero).1
        (finished_response hanswers).idle
    · cases hstep
  | task step =>
    cases step with
    | send => trivial
    | advance => trivial
    | disconnect =>
      intro channel _ _ hmem hzero
      simp only [clientStep, taskStep] at hstep
      split at hstep
      · cases hstep
        have hstays : channel ∈ (clientDisconnect connection).timers.ring :=
          disconnectAll_stays { connection with sock := false } _ hmem hzero
        exact h'.timer channel hstays (activeRequest_clientDisconnect channel)
      · cases hstep

theorem clientInv_connected (identifiers : List Bytes) (hdistinct : identifiers.Nodup)
    (requestTimeout : UInt32) (txBufferSize : Nat) :
    ClientInv (connected identifiers hdistinct requestTimeout txBufferSize) := by
  have hidle : ∀ i, (connected identifiers hdistinct requestTimeout
      txBufferSize).activeRequest i = none := by
    intro i
    simp only [ClientConnection.activeRequest, connected, List.getElem?_map]
    cases identifiers[i]? <;> rfl
  refine ⟨⟨fun i => ?_, fun i hi => by cases hi⟩, List.nodup_nil⟩
  unfold ChannelOk
  rw [hidle]
  exact .nil

/-- In a run in which each channel has one request outstanding at a time, the
requests are in order in every state, and each is answered as soon as its
failed send, its response, its timeout or the disconnect has been processed,
if and only if no timer is killed that is set with a `scheduled_time` of 0. -/
theorem requestsOk_iff (identifiers : List Bytes) (hdistinct : identifiers.Nodup)
    (requestTimeout : UInt32) (txBufferSize : Nat) (steps : List (ClientStep MrcpMessage))
    (hone : Runs.Along clientNext OneOutstanding
      (connected identifiers hdistinct requestTimeout txBufferSize) steps) :
    (Runs.Always clientNext RequestsOk
        (connected identifiers hdistinct requestTimeout txBufferSize) steps ∧
      Runs.Along clientNext SettlesOk
        (connected identifiers hdistinct requestTimeout txBufferSize) steps) ↔
    Runs.Along clientNext KillOk
      (connected identifiers hdistinct requestTimeout txBufferSize) steps := by
  have hinit := clientInv_connected identifiers hdistinct requestTimeout txBufferSize
  constructor
  · rintro ⟨halways, -⟩
    exact Runs.along_of_always (fun _ _ _ _ h' hstep => killOk_of_requestsOk h' hstep) steps _
      halways
  · intro hkill
    have hboth := (Runs.Along.and steps _).mpr ⟨hone, hkill⟩
    have hstep : ∀ s a s', ClientInv s → (OneOutstanding s a ∧ KillOk s a) →
        clientNext s a = some s' → ClientInv s' ∧ SettlesOk s a := by
      intro s a s' hinv hok hnext
      obtain ⟨result, hresult, rfl⟩ := Option.map_eq_some_iff.mp hnext
      obtain ⟨hinv', hsettles⟩ := hinv.step hok.1 hok.2 hresult
      refine ⟨hinv', fun result' hresult' => ?_⟩
      rw [hresult] at hresult'
      cases hresult'
      exact hsettles
    constructor
    · exact (Runs.always_of_along (fun s a s' hs hP hnext => (hstep s a s' hs hP hnext).1) steps
        _ hinit hboth).mono (fun _ h => h.toRequestsOk)
    · exact Runs.along_of_invariant hstep steps _ hinit hboth

/-! ## A run that is in order and one that is not -/

instance (connection : ClientConnection) : ∀ step, Decidable (OneOutstanding connection step)
  | .task (.send ..) => inferInstanceAs (Decidable (_ = none))
  | .task (.advance _) => isTrue trivial
  | .task .disconnect => isTrue trivial
  | .received _ => isTrue trivial

instance (connection : ClientConnection) (channel : Nat) :
    Decidable (TimerVisible connection channel) :=
  inferInstanceAs (Decidable (_ → _))

instance (connection : ClientConnection) (message : MrcpMessage) (channel : Nat) :
    Decidable (Matches connection message channel) :=
  inferInstanceAs (Decidable (_ ∧ _))

instance (connection : ClientConnection) : ∀ step, Decidable (KillOk connection step)
  | .task (.send ..) => isTrue trivial
  | .task (.advance _) => isTrue trivial
  | .task .disconnect =>
    inferInstanceAs (Decidable (∀ channel < connection.channels.length,
      connection.activeRequest channel ≠ none → TimerVisible connection channel))
  | .received message =>
    inferInstanceAs (Decidable (∀ channel < connection.channels.length,
      Matches connection message channel → TimerVisible connection channel))

/-- The request with an id, on channel `session@speechsynth`. -/
def speakFrom (session : String) (requestId : UInt32) : MrcpMessage :=
  { mrcpMessageCreate with
    startLine := { mrcpStartLineInit with
      messageType := .request
      version := .v2
      requestId := requestId
      methodName := bytesOf "SPEAK"
      methodId := 2 }
    channelId := ⟨bytesOf session, bytesOf "speechsynth"⟩
    resource := some .synthesizer
    header := mrcpMessageHeaderDataAlloc mrcpMessageHeaderInit .synthesizer .v2 }

/-- Two channels, with a request timeout of a minute. -/
def twoChannels : ClientConnection :=
  connected [bytesOf "1@speechsynth", bytesOf "2@speechsynth"] (by decide) 60000 1024

def speakSend (channel : Nat) (message : MrcpMessage) : ClientStep MrcpMessage :=
  .task (.send (fun _ => 0) (fun _ => true) 1 channel message)

/-- Both channels send a request; the one is answered, the other when the
connection ends. -/
def answeredAndDisconnected : List (ClientStep MrcpMessage) :=
  [speakSend 0 (speakFrom "1" 1), speakSend 1 (speakFrom "2" 2), .task (.advance 100),
    .received (mrcpResponseCreate (speakFrom "2" 2)), .task .disconnect]

theorem requestsOk_answeredAndDisconnected :
    Runs.Always clientNext RequestsOk twoChannels answeredAndDisconnected ∧
      Runs.Along clientNext SettlesOk twoChannels answeredAndDisconnected :=
  (requestsOk_iff _ _ _ _ answeredAndDisconnected (by decide +kernel)).mpr (by decide +kernel)

/-- The first channel sends a request, and the second one 5.6 seconds later.  A
minute after that the task gets to look at its timers: the time elapsed is
65.6 seconds.  Then the second channel is answered. -/
def lateSteps : List (ClientStep MrcpMessage) :=
  [speakSend 0 (speakFrom "1" 1), .task (.advance 5600), speakSend 1 (speakFrom "2" 2),
    .task (.advance 60000), .received (mrcpResponseCreate (speakFrom "2" 2))]

/-- The timers are rescheduled, the first to before 0, that is far in the
future, and the second to 0.  The first keeps the second from firing, and the
answer cannot kill it: it is set and its channel has no request. -/
theorem timer_set_without_request :
    Runs.Along clientNext OneOutstanding twoChannels lateSteps ∧
    ∃ connection, Runs.after clientNext twoChannels lateSteps = some connection ∧
      1 ∈ connection.timers.ring ∧ connection.activeRequest 1 = none ∧
      ¬RequestsOk connection := by
  refine ⟨by decide +kernel, _, rfl, by decide +kernel, by decide +kernel, fun h => ?_⟩
  exact h.timer 1 (by decide +kernel) (by decide +kernel)

end UniMrcp.Transport
