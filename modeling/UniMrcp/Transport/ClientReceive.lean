import UniMrcp.Lib.Runs
import UniMrcp.Transport.Client
import UniMrcp.Transport.MrcpSegmentation
import UniMrcp.Transport.RoundTrip

/-!
# What a client receives

The receive loop of the client hands every message to
`mrcp_client_message_handler`.  The handler rejects a response that its
channel does not wait for, and then the poller function returns at once: what
has been read stays in the buffer and is read again, and what has not been
read is overwritten by the next receive.

As long as no response is rejected, the handler gets every message of the
byte stream once and in order.
-/

namespace UniMrcp.Transport

open UniMrcp.Lib UniMrcp.Apt UniMrcp.Mrcp

/-- A connection that receives bytes.  `handled` records the messages handed to
`mrcp_client_message_handler`. -/
structure ClientReceiver where
  rx : RxState MrcpMessage
  connection : ClientConnection
  handled : List MrcpMessage

/-- A connection on which nothing has been received. -/
def ClientReceiver.init (connection : ClientConnection) : ClientReceiver :=
  ⟨RxState.init MrcpMessage, connection, []⟩

/-- `mrcp_client_message_handler`, with the messages handed to it. -/
def tracedHandler (world : List MrcpMessage × ClientConnection) (status : MessageStatus)
    (message : Option MrcpMessage) : (List MrcpMessage × ClientConnection) × Bool :=
  let (connection, accepted) := mrcpClientMessageHandler world.2 status message
  ((world.1 ++ message.toList, connection), accepted)

/-- One step of a client with a receive buffer of `rxSize` bytes.  A receive
is `mrcp_client_poller_signal_process`: `apr_socket_recv` delivers at least
one byte and no more than there is room for. -/
def receiverStep (object : MrcpParserObject) (rxSize : Nat) (client : ClientReceiver) :
    ClientStep Bytes → Option ClientReceiver
  | .task step => (taskStep client.connection step).map
      (fun result => { client with connection := result.1 })
  | .received chunk =>
    if client.connection.sock ∧ chunk ≠ [] ∧
        client.rx.held.length + chunk.length ≤ rxSize then
      let (world, rx) := receive (mrcpParserVtable object) tracedHandler
        (client.handled, client.connection) client.rx chunk
      some ⟨rx, world.2, world.1⟩
    else none

/-- The chunks received in a run. -/
def chunksOf (steps : List (ClientStep Bytes)) : List Bytes :=
  steps.filterMap (fun step => match step with | .received chunk => some chunk | .task _ => none)

/-! ## Expected messages -/

/-- No response, or one that its channel waits for, or one for no channel of
the connection. -/
def Expected (connection : ClientConnection) (message : MrcpMessage) : Bool :=
  match messageChannel connection message with
  | none => true
  | some channel =>
    message.startLine.messageType != .response ||
      (connection.activeRequest channel).any (fun r => r.requestId == message.requestId)

/-- The connection after a message. -/
def handlerStep (connection : ClientConnection) (message : MrcpMessage) :
    Option ClientConnection :=
  some (mrcpClientMessageHandler connection .complete (some message)).1

/-- Each message of the chunk that a receive reads is expected when it is
handled. -/
def ReceiveOk (object : MrcpParserObject) (client : ClientReceiver) :
    ClientStep Bytes → Prop
  | .task _ => True
  | .received chunk =>
    Runs.Along handlerStep (fun connection message => Expected connection message = true)
      client.connection (receive (mrcpParserVtable object) collect [] client.rx chunk).1

instance (object : MrcpParserObject) (client : ClientReceiver) :
    ∀ step, Decidable (ReceiveOk object client step)
  | .task _ => isTrue trivial
  | .received _ => inferInstanceAs (Decidable (Runs.Along handlerStep _ _ _))

/-- The handler accepts what is expected. -/
theorem mrcpClientMessageHandler_accepts {connection : ClientConnection}
    {message : MrcpMessage} (h : Expected connection message = true) :
    (mrcpClientMessageHandler connection .complete (some message)).2 = true := by
  rcases mrcpClientMessageHandler_cases connection message with
    ⟨-, heq⟩ | ⟨channel, -, -, heq⟩ | ⟨channel, hchannel, htype, hwait, heq⟩ |
      ⟨channel, request, -, -, -, -, heq⟩
  · rw [heq]
  · rw [heq]
  · -- a rejected response is not expected
    simp only [Expected, hchannel, htype] at h
    obtain ⟨request, hactive, hid⟩ := (Option.any_eq_true _ _).mp h
    exact absurd (beq_iff_eq.mp hid) (hwait request hactive)
  · rw [heq]

/-! ## The parser returns a message only when it is complete -/

section Parser

variable {M : Type}

def MessageIfComplete (result : ParseResult M) : Prop :=
  ∀ message, result.message = some message → result.status = .complete

theorem messageIfComplete_none {result : ParseResult M} (h : result.message = none) :
    MessageIfComplete result := by
  intro message hsome
  rw [h] at hsome
  cases hsome

variable (vtable : ParserVtable M)

theorem bodyStage_message (message : M) (contentLength : Nat) (read : Bytes) (skipLf : Bool)
    (stream : TextStream) :
    MessageIfComplete (bodyStage vtable message contentLength read skipLf stream) := by
  unfold bodyStage
  dsimp only
  split
  · exact fun _ _ => rfl
  · exact messageIfComplete_none rfl

theorem headerCompleteStage_message (message : M) (skipLf : Bool) (stream : TextStream) :
    MessageIfComplete (headerCompleteStage vtable message skipLf stream) := by
  unfold headerCompleteStage
  split
  · exact messageIfComplete_none rfl
  · split
    · exact fun _ _ => rfl
    · exact bodyStage_message vtable _ _ _ _ _

theorem headerStage_message (message : M) (skipLf : Bool) (stream : TextStream) :
    MessageIfComplete (headerStage vtable message skipLf stream) := by
  unfold headerStage
  split
  · exact messageIfComplete_none rfl
  · exact headerCompleteStage_message vtable _ _ _

theorem aptMessageParserRun_message (parser : MessageParser M) (stream : TextStream) :
    MessageIfComplete (aptMessageParserRun vtable parser stream) := by
  unfold aptMessageParserRun
  dsimp only
  split
  · unfold startStage
    split
    · exact messageIfComplete_none rfl
    · exact headerStage_message vtable _ _ _
  · exact headerStage_message vtable _ _ _
  · exact bodyStage_message vtable _ _ _ _ _

end Parser

/-! ## The loop with the handler and without -/

section Loop

variable {vtable : ParserVtable MrcpMessage}

section

variable (fuel : Nat) (handled : List MrcpMessage) (connection : ClientConnection)
  (parser : MessageParser MrcpMessage) (stream : TextStream) {result : ParseResult MrcpMessage}

/-- The messages collected before do not matter. -/
theorem messageLoop_collect (messages : List MrcpMessage)
    (parser : MessageParser MrcpMessage) (stream : TextStream) :
    messageLoop vtable collect fuel messages parser stream =
      (messages ++ (messageLoop vtable collect fuel [] parser stream).1,
        (messageLoop vtable collect fuel [] parser stream).2) := by
  induction fuel generalizing messages parser stream with
  | zero => simp [messageLoop]
  | succ fuel ih =>
    rw [messageLoop, messageLoop]
    simp only [collect, Bool.not_true, Bool.false_eq_true, if_false]
    split
    · simp
    · rw [ih, ih ([] ++ _)]
      simp

/-- One pass of the loop that collects. -/
theorem messageLoop_collect_succ (hresult : aptMessageParserRun vtable parser stream = result) :
    messageLoop vtable collect (fuel + 1) [] parser stream =
      if result.stream.isEnd then (result.message.toList, result.parser, result.stream, true)
      else
        (result.message.toList ++
          (messageLoop vtable collect fuel [] result.parser result.stream).1,
          (messageLoop vtable collect fuel [] result.parser result.stream).2) := by
  rw [messageLoop, hresult]
  simp only [collect, Bool.not_true, Bool.false_eq_true, if_false, List.nil_append]
  rw [messageLoop_collect]

/-- A message that is expected is taken, and so is the absence of one. -/
theorem tracedHandler_expected (hcomplete : MessageIfComplete result) (handled : List MrcpMessage)
    {connection : ClientConnection} {rest : List MrcpMessage}
    (hok : Runs.Along handlerStep (fun c m => Expected c m = true) connection
      (result.message.toList ++ rest)) :
    ∃ connection', tracedHandler (handled, connection) result.status result.message =
        ((handled ++ result.message.toList, connection'), true) ∧
      Runs.Along handlerStep (fun c m => Expected c m = true) connection' rest := by
  cases hmessage : result.message with
  | none =>
    rw [hmessage] at hok
    refine ⟨connection, ?_, hok⟩
    cases result.status <;> rfl
  | some message =>
    rw [hmessage] at hok
    rw [hcomplete message hmessage]
    obtain ⟨hexpected, hrest⟩ := hok _ rfl
    refine ⟨_, ?_, hrest⟩
    have haccepts := mrcpClientMessageHandler_accepts hexpected
    simp [tracedHandler, haccepts]

/-- While the messages are expected, the loop goes as if the handler took
every message. -/
theorem messageLoop_tracedHandler
    (hok : Runs.Along handlerStep (fun c m => Expected c m = true) connection
      (messageLoop vtable collect fuel [] parser stream).1) :
    ∃ connection', messageLoop vtable tracedHandler fuel (handled, connection) parser stream =
      ((handled ++ (messageLoop vtable collect fuel [] parser stream).1, connection'),
        (messageLoop vtable collect fuel [] parser stream).2) := by
  induction fuel generalizing handled connection parser stream with
  | zero => exact ⟨connection, by simp [messageLoop]⟩
  | succ fuel ih =>
    generalize hresult : aptMessageParserRun vtable parser stream = result
    have hcomplete : MessageIfComplete result := by
      rw [← hresult]
      exact aptMessageParserRun_message vtable parser stream
    rw [messageLoop_collect_succ fuel parser stream hresult] at hok ⊢
    rw [messageLoop, hresult]
    cases hend : result.stream.isEnd with
    | true =>
      simp only [hend] at hok ⊢
      rw [← List.append_nil result.message.toList] at hok
      obtain ⟨connection', hhandler, -⟩ := tracedHandler_expected hcomplete handled hok
      simp only [hhandler]
      exact ⟨connection', rfl⟩
    | false =>
      simp only [hend] at hok ⊢
      obtain ⟨connection', hhandler, hrest⟩ := tracedHandler_expected hcomplete handled hok
      obtain ⟨connection'', hloop⟩ := ih (handled ++ result.message.toList) connection'
        result.parser result.stream hrest
      simp only [hhandler, Bool.not_true, Bool.false_eq_true, if_false]
      exact ⟨connection'', by rw [hloop, List.append_assoc]⟩

/-- One receive. -/
theorem receive_tracedHandler (rx : RxState MrcpMessage) (chunk : Bytes)
    (hok : Runs.Along handlerStep (fun c m => Expected c m = true) connection
      (receive vtable collect [] rx chunk).1) :
    ∃ connection', receive vtable tracedHandler (handled, connection) rx chunk =
      ((handled ++ (receive vtable collect [] rx chunk).1, connection'),
        (receive vtable collect [] rx chunk).2) := by
  obtain ⟨connection', hloop⟩ := messageLoop_tracedHandler ((rx.held ++ chunk).length + 1)
    handled connection rx.parser ⟨[], rx.held ++ chunk, [], false⟩ hok
  exact ⟨connection', by simp only [receive, hloop]⟩

end

end Loop

/-! ## Runs -/

/-- What a run of expected messages leaves behind: the receiver is where it
would be if nothing were ever rejected, and so are the messages handled. -/
theorem after_receiveAll (object : MrcpParserObject) (rxSize : Nat)
    (steps : List (ClientStep Bytes)) (client client' : ClientReceiver)
    (hok : Runs.Along (receiverStep object rxSize) (ReceiveOk object) client steps)
    (hafter : Runs.after (receiverStep object rxSize) client steps = some client') :
    ∃ messages, Transducer.receiveAll (pollerReceive (mrcpParserVtable object) rxSize)
        client.rx (chunksOf steps) = some (client'.rx, messages) ∧
      client'.handled = client.handled ++ messages := by
  induction steps generalizing client with
  | nil =>
    cases hafter
    exact ⟨[], rfl, by simp⟩
  | cons step steps ih =>
    obtain ⟨client1, hstep, hafter⟩ := Option.bind_eq_some_iff.mp hafter
    obtain ⟨hreceive, hrest⟩ := hok client1 hstep
    obtain ⟨messages, hall, hhandled⟩ := ih client1 hrest hafter
    cases step with
    | task step =>
      obtain ⟨result, -, rfl⟩ := Option.map_eq_some_iff.mp hstep
      exact ⟨messages, hall, hhandled⟩
    | received chunk =>
      simp only [receiverStep] at hstep
      split at hstep
      · rename_i hroom
        obtain ⟨-, hne, hsize⟩ := hroom
        obtain ⟨connection', heq⟩ := receive_tracedHandler client.handled client.connection
          client.rx chunk hreceive
        rw [heq] at hstep
        cases hstep
        have hpos := List.length_pos_iff.mpr hne
        have hfull : ¬client.rx.held.length ≥ rxSize := by omega
        have hpoller : pollerReceive (mrcpParserVtable object) rxSize client.rx chunk =
            some ((receive (mrcpParserVtable object) collect [] client.rx chunk).2,
              (receive (mrcpParserVtable object) collect [] client.rx chunk).1) := by
          rw [pollerReceive, if_neg hfull]
        refine ⟨(receive (mrcpParserVtable object) collect [] client.rx chunk).1 ++ messages,
          ?_, ?_⟩
        · show Transducer.receiveAll _ client.rx (chunk :: chunksOf steps) = _
          simp only [Transducer.receiveAll, hpoller, Option.bind_eq_bind, Option.bind_some]
          rw [hall]
          rfl
        · rw [hhandled, List.append_assoc]
      · cases hstep

/-- What is received is not empty, and fits the buffer. -/
theorem chunksOf_after {object : MrcpParserObject} {rxSize : Nat}
    {steps : List (ClientStep Bytes)} {client client' : ClientReceiver}
    (hafter : Runs.after (receiverStep object rxSize) client steps = some client') :
    ∀ chunk ∈ chunksOf steps, chunk ≠ [] ∧ 0 < rxSize := by
  induction steps generalizing client with
  | nil => simp [chunksOf]
  | cons step steps ih =>
    obtain ⟨client1, hstep, hrest⟩ := Option.bind_eq_some_iff.mp hafter
    cases step with
    | task step => exact ih hrest
    | received chunk =>
      intro chunk' hmem
      rcases List.mem_cons.mp hmem with rfl | hmem
      · simp only [receiverStep] at hstep
        split at hstep
        · rename_i hroom
          have hpos := List.length_pos_iff.mpr hroom.2.1
          exact ⟨hroom.2.1, by omega⟩
        · cases hstep
      · exact ih hrest chunk' hmem

/-- The messages of a byte stream. -/
def streamMessages (object : MrcpParserObject) (stream : Bytes) : List MrcpMessage :=
  ((lineMachine (mrcpLineVtable object)).run ⟨.startLine, false, []⟩ stream).2

/-- As long as every response that arrives for a channel is the one the channel
waits for, each message received is handed to the handler once and in order:
what has been handled are the messages a receive loop finds that rejects
nothing, and on an admissible stream these are the messages of the stream. -/
theorem handled_eq_receivedMessages (object : MrcpParserObject) (rxSize : Nat)
    (connection : ClientConnection) (steps : List (ClientStep Bytes))
    (hok : Runs.Along (receiverStep object rxSize) (ReceiveOk object)
      (ClientReceiver.init connection) steps)
    (client : ClientReceiver)
    (hafter : Runs.after (receiverStep object rxSize) (ClientReceiver.init connection) steps =
      some client) :
    receivedMessages object rxSize (chunksOf steps) = some client.handled ∧
      (StreamOk object (fun line => startLineClosed line = true) rxSize
          (chunksOf steps).flatten →
        client.handled = streamMessages object (chunksOf steps).flatten) := by
  obtain ⟨messages, hall, hhandled⟩ := after_receiveAll object rxSize steps _ _ hok hafter
  have hreceived : receivedMessages object rxSize (chunksOf steps) = some client.handled := by
    have hinit : Transducer.receiveAll (pollerReceive (mrcpParserVtable object) rxSize)
        (RxState.init MrcpMessage) (chunksOf steps) = some (client.rx, messages) := hall
    rw [receivedMessages, hinit, hhandled]
    rfl
  refine ⟨hreceived, fun hstream => ?_⟩
  cases hchunks : chunksOf steps with
  | nil =>
    rw [hchunks] at hreceived
    exact (Option.some.inj hreceived).symm
  | cons chunk chunks =>
    have hne := chunksOf_after hafter
    have hpos : 0 < rxSize := (hne chunk (by rw [hchunks]; exact List.mem_cons_self)).2
    have hmachine := receiveAll_eq_lineMachine
      (fun line h => mrcpStartLine_closed object h) hpos (chunksOf steps)
      (fun chunk hmem => (hne chunk hmem).1) hstream
    rw [← hchunks]
    exact Option.some.inj (hreceived.symm.trans hmachine)

/-- A connection with one channel. -/
def speakConnection : ClientConnection where
  sock := true
  channels := [⟨bytesOf "1@speechsynth", none⟩]
  distinct := by simp
  timers := aptTimerQueueCreate Nat
  requestTimeout := 5000
  txBufferSize := 1024
  trace := []

/-- The response to request 1 and the event that follows it. -/
def speakResponse : Bytes :=
  bytesOf "MRCP/2.0 10 1 200 IN-PROGRESS\r\nChannel-Identifier:1@speechsynth\r\n\r\n"

def speakCompleteEvent : Bytes :=
  bytesOf "MRCP/2.0 10 SPEAK-COMPLETE 1 COMPLETE\r\nChannel-Identifier:1@speechsynth\r\n\r\n"

/-- The channel sends request 1, and is answered. -/
def answeredSteps : List (ClientStep Bytes) :=
  [.task (.send (fun _ => 0) (fun _ => true) 1 0 (speakRequest [])),
    .received speakResponse, .received speakCompleteEvent]

theorem handled_answeredSteps :
    ∃ client, Runs.after (receiverStep loadedParser 1024) (ClientReceiver.init speakConnection)
        answeredSteps = some client ∧
      receivedMessages loadedParser 1024 (chunksOf answeredSteps) = some client.handled :=
  ⟨_, rfl, (handled_eq_receivedMessages loadedParser 1024 speakConnection answeredSteps
    (by decide +kernel) _ rfl).1⟩

/-- The response arrives without a request: it is handled again with the next
chunk, and the event is not handled at all. -/
theorem unexpectedResponse_handled_twice :
    (Runs.after (receiverStep loadedParser 1024) (ClientReceiver.init speakConnection)
      [.received speakResponse, .received speakCompleteEvent]).map
        (fun client => client.handled.map (fun m => m.startLine.messageType)) =
      some [.response, .response] ∧
    (streamMessages loadedParser (speakResponse ++ speakCompleteEvent)).map
        (fun m => m.startLine.messageType) = [.response, .event] ∧
    (Runs.after (receiverStep loadedParser 1024) (ClientReceiver.init speakConnection)
      [.received speakResponse, .received speakCompleteEvent]).map ClientReceiver.handled ≠
        receivedMessages loadedParser 1024 [speakResponse, speakCompleteEvent] := by
  decide +kernel

end UniMrcp.Transport
